import Mathlib.Data.List.TakeWhile

/-! # Runs of characters

A run of characters of one kind ends at the first character of another kind, or at the
end of the text. Decimal numerals are such runs. -/
namespace TemplateFill.Text

section Run

variable {α : Type} {p : α → Bool} {run rest : List α}

theorem takeWhile_run (hr : ∀ c ∈ run, p c = true) (hs : ∀ c ∈ rest.head?, p c = false) :
    (run ++ rest).takeWhile p = run := by
  rw [List.takeWhile_append_of_pos hr]
  cases rest with
  | nil => simp
  | cons stop rest => simp [hs stop rfl]

theorem dropWhile_run (hr : ∀ c ∈ run, p c = true) (hs : ∀ c ∈ rest.head?, p c = false) :
    (run ++ rest).dropWhile p = rest := by
  rw [List.dropWhile_append_of_pos hr]
  cases rest with
  | nil => rfl
  | cons stop rest => simp [hs stop rfl]

theorem not_head_dropWhile (p : α → Bool) (s : List α) :
    ∀ c ∈ (s.dropWhile p).head?, p c = false := by
  intro c hc
  have hstop := List.head?_dropWhile_not p s
  rw [Option.mem_def] at hc
  simpa [hc] using hstop

end Run

theorem bne_of_notMem {s : List Char} {stop : Char} (h : stop ∉ s) :
    ∀ c ∈ s, (c != stop) = true := by
  intro c hc
  have hne : c ≠ stop := fun he => h (he ▸ hc)
  simp [hne]

theorem isDigit_toDigits (n : Nat) : ∀ c ∈ Nat.toDigits 10 n, c.isDigit = true :=
  fun _ hc => Nat.isDigit_of_mem_toDigits (by decide) (by decide) hc

theorem exists_toDigits_eq_cons (n : Nat) :
    ∃ d rest, Nat.toDigits 10 n = d :: rest ∧ d.isDigit = true := by
  obtain ⟨d, rest, h⟩ := List.exists_cons_of_ne_nil Nat.toDigits_ne_nil
  exact ⟨d, rest, h, isDigit_toDigits n d (by simp [h])⟩

end TemplateFill.Text
