import Mathlib.Data.List.Basic
import TemplateFill.CommandLine.World
import TemplateFill.Proofs.CommandLine.Hosts

/-! # What a write leaves

A file is written at one place, which is no directory. Nothing changes at any other place;
so every way to another place leads there as before, and the name that was written to leads
to what was written. A world is a lawful host, in which a file is the place where it is. -/
namespace TemplateFill

namespace FileSystem

variable {files files' : FileSystem} {location place : Location} {name : FileName}
  {octets : ByteArray}

theorem isDirectory_iff :
    files.isDirectory location = true ↔ files.get? location = some .directory := by
  unfold isDirectory
  cases files.get? location with
  | none => simp
  | some entry => cases entry <;> simp

theorem get?_ne_directory (h : files.isDirectory location = false) :
    files.get? location ≠ some .directory := by
  intro hdirectory
  rw [isDirectory_iff.mpr hdirectory] at h
  cases h

/-- The places that are always directories are none that a file is put at. -/
theorem isAbove_eq_false (h : files.isDirectory location = false) : isAbove location = false := by
  rw [Bool.eq_false_iff]
  intro habove
  exact get?_ne_directory h (by rw [get?, if_pos habove])

/-- What has led to a result has led to something first. -/
theorem bind_eq_ok {α β : Type} {act : Except FileError α} {rest : α → Except FileError β}
    {result : β} (h : act >>= rest = .ok result) :
    ∃ x, act = .ok x ∧ rest x = .ok result := by
  cases act with
  | error e => cases h
  | ok x => exact ⟨x, rfl, h⟩

/-! ## Ways through directories -/

section Put

variable (hfree : files.isDirectory place = false) (octets : ByteArray)
include hfree

/-- A file takes the place where it is put, and no other. -/
theorem get?_put (location : Location) :
    (files.put place (.file octets)).get? location =
      if location = place then some (.file octets) else files.get? location := by
  by_cases he : location = place
  · rw [he, if_pos rfl, get?, isAbove_eq_false hfree, if_neg (by decide), put, Members.get?_insert,
      if_pos rfl]
  · simp only [get?, put, Members.get?_insert, if_neg he]

theorem isDirectory_put (location : Location) :
    (files.put place (.file octets)).isDirectory location = files.isDirectory location := by
  rw [Bool.eq_iff_iff, isDirectory_iff, isDirectory_iff, get?_put hfree]
  by_cases he : location = place
  · subst he
    simp [get?_ne_directory hfree]
  · rw [if_neg he]

theorem search_put (location : Location) :
    (files.put place (.file octets)).search location = files.search location := by
  rw [search, isDirectory_put hfree]
  rfl

/-- Where a name has led nowhere it may now lead to the new file, and that is all. -/
theorem enter_put (location : Location) (name : FileName) :
    (files.put place (.file octets)).enter location name = files.enter location name ∨
      files.enter location name = .error .notFound ∧
        (files.put place (.file octets)).enter location name = .ok place := by
  unfold enter
  rw [search_put hfree]
  cases files.search location with
  | error e => exact .inl rfl
  | ok _ =>
    have hchild : (files.put place (.file octets)).child location name =
        files.child location name := rfl
    rw [hchild]
    cases files.child location name with
    | error e => exact .inl rfl
    | ok next =>
      simp only [bind, Except.bind, get?_put hfree]
      by_cases he : next = place
      · subst he
        rw [if_pos rfl]
        cases files.get? next with
        | none => exact .inr ⟨rfl, rfl⟩
        | some entry => exact .inl rfl
      · rw [if_neg he]
        exact .inl rfl

/-- A way that has led nowhere may now lead to the new file, and that is all: no way goes on
from there. -/
theorem walk_put (names : List FileName) (location : Location) :
    (files.put place (.file octets)).walk location names = files.walk location names ∨
      ∃ e, files.walk location names = .error e ∧
        ((files.put place (.file octets)).walk location names = .ok place ∨
          ∃ e', (files.put place (.file octets)).walk location names = .error e') := by
  induction names generalizing location with
  | nil => exact .inl rfl
  | cons name rest ih =>
    simp only [walk, List.foldlM_cons]
    rcases enter_put hfree octets location name with henter | ⟨hnone, hnew⟩
    · rw [henter]
      cases files.enter location name with
      | error e => exact .inl rfl
      | ok next => exact ih next
    · rw [hnone, hnew]
      refine .inr ⟨.notFound, rfl, ?_⟩
      cases rest with
      | nil => exact .inl rfl
      | cons other rest =>
        have hstop : (files.put place (.file octets)).enter place other =
            .error .notDirectory := by
          rw [enter, search_put hfree, search, hfree]
          rfl
        refine .inr ⟨.notDirectory, ?_⟩
        show (files.put place (.file octets)).walk place (other :: rest) = _
        rw [walk, List.foldlM_cons, hstop]
        rfl

end Put

/-- What a name leads to. -/
def lead (files : FileSystem) (name : FileName) : Lead Location :=
  match files.resolve name with
  | .error _ => .nothing
  | .ok place => match files.get? place with
    | some (.file _) => .file place
    | some .directory => .directory
    | none => .nothing

def content (files : FileSystem) (place : Location) : Option ByteArray :=
  match files.get? place with
  | some (.file octets) => some octets
  | _ => none

/-- How a name leads to a place where a file is or can be made: it leads to a directory that
can be searched, and then by one more name to the place. -/
structure LeadsTo (files : FileSystem) (name : FileName) (place : Location) (route : Route)
    (directory : Location) (last : FileName) : Prop where
  taken : Route.ofName name = .ok route
  noSlash : route.slashAtEnd = false
  names : route.names = route.names.dropLast ++ [last]
  way : files.walk route.start route.names.dropLast = .ok directory
  searched : files.search directory = .ok ()
  child : files.child directory last = .ok place

/-- The name leads to the place if something is there. -/
theorem LeadsTo.resolve_eq {route : Route} {directory : Location} {last : FileName}
    (h : files.LeadsTo name place route directory last) :
    files.resolve name =
      if (files.get? place).isSome then .ok place else .error .notFound := by
  have hwalk : files.walk route.start route.names = files.enter directory last := by
    rw [h.names, walk, List.foldlM_append]
    have hway := h.way
    rw [walk] at hway
    rw [hway]
    show (files.enter directory last >>= pure) = files.enter directory last
    exact bind_pure _
  simp only [resolve, h.taken, hwalk, enter, h.searched, h.child, h.noSlash, bind, Except.bind]
  cases files.get? place with
  | none => rfl
  | some entry => rfl

theorem LeadsTo.put {route : Route} {directory : Location} {last : FileName}
    (h : files.LeadsTo name place route directory last)
    (hfree : files.isDirectory place = false) (octets : ByteArray) :
    (files.put place (.file octets)).LeadsTo name place route directory last where
  taken := h.taken
  noSlash := h.noSlash
  names := h.names
  way := by
    rcases walk_put hfree octets route.names.dropLast route.start with
      hsame | ⟨e, hnone, -⟩
    · rw [hsame, h.way]
    · rw [h.way] at hnone
      cases hnone
  searched := by rw [search_put hfree, h.searched]
  child := h.child

end FileSystem

/-! ## A world as a host -/

namespace World

/-- In a world a file is the place where it is. -/
def view : View World where
  File := Location
  lead world name := world.files.lead name
  content world place := world.files.content place
  input world := world.console.input.toOption.getD .empty
  printed world := world.console.printed

variable {world world' : World} {name : FileName} {octets : ByteArray}

theorem read_offers (h : world.files.read name = .ok octets) :
    view.Offers world octets (some name) := by
  obtain ⟨place, hresolve, h⟩ := FileSystem.bind_eq_ok h
  split at h
  · next content hentry =>
    obtain ⟨_, -, h⟩ := FileSystem.bind_eq_ok h
    cases h
    have hlead : view.lead world name = .file place := by
      simp only [view, FileSystem.lead, hresolve, hentry]
    have hcontent : view.content world place = some octets := by
      simp only [view, FileSystem.content, hentry]
    exact .file hlead hcontent
  · cases h

theorem print_part {answer : Except FileError Unit} (h : print octets world = (answer, world')) :
    ∃ part rest, part ++ rest = octets ∧ view.Printed part world world' ∧
      (answer = .ok () → part = octets) := by
  obtain ⟨files, input, printed, fault⟩ := world
  cases fault with
  | none =>
    cases h
    exact ⟨octets, .empty, ByteArray.append_empty, ⟨⟨rfl, rfl⟩, rfl⟩, fun _ => rfl⟩
  | some fault =>
    obtain ⟨room, e⟩ := fault
    cases h
    refine ⟨octets.extract 0 room, octets.extract room octets.size, ?_, ⟨⟨rfl, rfl⟩, rfl⟩,
      fun hall => ?_⟩
    · rw [ByteArray.extract_append_extract, Nat.zero_min, ByteArray.extract_zero_max_size]
    · split at hall
      · next hroom =>
        rw [← Nat.max_eq_left hroom, ByteArray.extract_zero_max_size]
      · cases hall

end World

end TemplateFill
