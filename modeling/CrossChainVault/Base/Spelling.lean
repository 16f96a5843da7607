import Mathlib.Data.List.Basic

set_option autoImplicit false

/- What written words tell about the values behind them, whatever is written after them. A record
written field by field tells all its fields as soon as each field tells its own value. -/

namespace Spelling

variable {L A B : Type}

/-- Two values that fit and are written alike up to what follows are `same`, and so is what follows. -/
def Tells (write : A → List L) (fits : A → Prop) (same : A → A → Prop) : Prop :=
  ∀ ⦃a b : A⦄ ⦃rest rest' : List L⦄, fits a → fits b →
    write a ++ rest = write b ++ rest' → same a b ∧ rest = rest'

/-- No two values that fit are written alike, whatever follows them. -/
abbrev Unambiguous (write : A → List L) (fits : A → Prop) : Prop := Tells write fits Eq

variable {write write' : A → List L} {fits fits' : A → Prop} {same same' : A → A → Prop}

namespace Tells

/-- Nothing follows. -/
theorem alone (tells : Tells write fits same) {a b : A} (hA : fits a) (hB : fits b)
    (alike : write a = write b) : same a b := by
  have padded : write a ++ [] = write b ++ [] := congrArg (· ++ []) alike
  exact (tells hA hB padded).1

theorem mono (tells : Tells write fits same) (narrower : ∀ a, fits' a → fits a)
    (weaker : ∀ a b, fits' a → fits' b → same a b → same' a b) : Tells write fits' same' := by
  intro a b rest rest' hA hB alike
  obtain ⟨told, tail⟩ := tells (narrower a hA) (narrower b hB) alike
  exact ⟨weaker a b hA hB told, tail⟩

/-- Words of one length, different for different values. -/
theorem fixed {width : Nat} (sized : ∀ a, fits a → (write a).length = width)
    (injective : ∀ a b, fits a → fits b → write a = write b → a = b) : Unambiguous write fits := by
  intro a b rest rest' hA hB alike
  have lengths : (write a).length = (write b).length := by rw [sized a hA, sized b hB]
  obtain ⟨words, tail⟩ := List.append_inj alike lengths
  exact ⟨injective a b hA hB words, tail⟩

/-- A word that is always the same tells nothing. -/
theorem constant (word : List L) : Tells (fun _ : A => word) fits fun _ _ => True := by
  intro a b rest rest' _ _ alike
  exact ⟨trivial, List.append_cancel_left alike⟩

/-- One field of a record. -/
theorem field {write : B → List L} {fits : B → Prop} {same : B → B → Prop}
    (tells : Tells write fits same) (value : A → B) (fitting : ∀ a, fits' a → fits (value a)) :
    Tells (fun a => write (value a)) fits' fun a b => same (value a) (value b) := by
  intro a b rest rest' hA hB alike
  exact tells (fitting a hA) (fitting b hB) alike

/-- A field that always fits. -/
theorem free {write : B → List L} {same : B → B → Prop}
    (tells : Tells write (fun _ => True) same) (value : A → B) :
    Tells (fun a => write (value a)) fits fun a b => same (value a) (value b) :=
  tells.field value fun _ _ => trivial

/-- What is written first tells its part, and then what follows it tells the other. -/
theorem append (first : Tells write fits same) (second : Tells write' fits same') :
    Tells (fun a => write a ++ write' a) fits fun a b => same a b ∧ same' a b := by
  intro a b rest rest' hA hB alike
  rw [List.append_assoc, List.append_assoc] at alike
  obtain ⟨told, later⟩ := first hA hB alike
  obtain ⟨told', tail⟩ := second hA hB later
  exact ⟨⟨told, told'⟩, tail⟩

/-- A list of known length, one word after the other. -/
theorem listed (tells : Unambiguous write fits) : ∀ {entries entries' : List A},
    entries.length = entries'.length → (∀ a ∈ entries, fits a) → (∀ a ∈ entries', fits a) →
    ∀ {rest rest' : List L}, entries.flatMap write ++ rest = entries'.flatMap write ++ rest' →
      entries = entries' ∧ rest = rest' := by
  intro entries
  induction entries with
  | nil =>
      intro entries' lengths _ _ rest rest' alike
      have empty : entries' = [] := List.length_eq_zero_iff.mp lengths.symm
      rw [empty] at alike ⊢
      exact ⟨rfl, alike⟩
  | cons a entries ih =>
      intro entries' lengths hA hB rest rest' alike
      cases entries' with
      | nil => cases lengths
      | cons b entries' =>
          rw [List.forall_mem_cons] at hA hB
          rw [List.flatMap_cons, List.flatMap_cons, List.append_assoc, List.append_assoc] at alike
          obtain ⟨head, later⟩ := tells hA.1 hB.1 alike
          obtain ⟨tail, last⟩ := ih (Nat.succ.inj lengths) hA.2 hB.2 later
          rw [head, tail]
          exact ⟨rfl, last⟩

/-- A list behind its length. -/
theorem counted {count : Nat → List L} {limit : Nat} (counts : Unambiguous count (· < limit))
    (tells : Unambiguous write fits) :
    Unambiguous (fun entries : List A => count entries.length ++ entries.flatMap write)
      fun entries => entries.length < limit ∧ ∀ a ∈ entries, fits a := by
  intro entries entries' rest rest' hA hB alike
  dsimp only at alike
  rw [List.append_assoc, List.append_assoc] at alike
  obtain ⟨lengths, later⟩ := counts hA.1 hB.1 alike
  exact listed tells lengths hA.2 hB.2 later

/-- A value behind a flag that says whether it is there, with a stand-in when it is not. -/
theorem optional {flag : Bool → List L} (flags : Unambiguous flag fun _ => True)
    (tells : Unambiguous write fits) {absent : A} (absentFits : fits absent) :
    Unambiguous (fun value : Option A => flag value.isSome ++ write (value.getD absent))
      fun value => ∀ a ∈ value, fits a := by
  intro value value' rest rest' hA hB alike
  dsimp only at alike
  rw [List.append_assoc, List.append_assoc] at alike
  have fitting : ∀ {value : Option A}, (∀ a ∈ value, fits a) → fits (value.getD absent) := by
    intro value all
    cases value with
    | none => exact absentFits
    | some a => exact all a rfl
  obtain ⟨presence, later⟩ := flags trivial trivial alike
  obtain ⟨contents, tail⟩ := tells (fitting hA) (fitting hB) later
  refine ⟨?_, tail⟩
  cases value with
  | none =>
      cases value' with
      | none => rfl
      | some b => cases presence
  | some a =>
      cases value' with
      | none => cases presence
      | some b => exact congrArg some contents

end Tells

end Spelling
