import CrossChainVault.Verifier.Grammar

set_option autoImplicit false

/- Objects whose fields fill slots. A schema says which names an object may have, how each value is
read and where it is kept; reading an object then fills exactly the slots it names, each once. -/

namespace Verifier

open Result

/-- The fields of one kind of object. `visit` is the parser's callback and `view` its slots. -/
structure Schema (σ ι : Type) [DecidableEq ι] where
  visit : σ → Bytes → Bytes → Except VerifierError (σ × Bytes)
  name : ι → Bytes
  Value : ι → Type
  read : (i : ι) → Bytes → Except VerifierError (Value i × Bytes)
  Spells : (i : ι) → Bytes → Value i → Prop
  view : σ ≃ ((i : ι) → Option (Value i))
  reads : ∀ i, Reads (read i) (Spells i)
  visit_name : ∀ slots i cursor, visit slots (name i) cursor = do
    let (slot, cursor) ← fill (view slots i) (read i cursor)
    pure (view.symm (Function.update (view slots) i slot), cursor)
  visit_other : ∀ slots key cursor, (∀ i, key ≠ name i) →
    ∀ result, visit slots key cursor ≠ .ok result

namespace Schema

variable {σ ι : Type} [DecidableEq ι] (schema : Schema σ ι)

variable {slots next final : σ} {cursor rest : Bytes}

/-- A field fills its own slot, which was free. -/
theorem visit_iff {key : Bytes} :
    schema.visit slots key cursor = .ok (next, rest) ↔
      ∃ i value, key = schema.name i ∧ schema.view slots i = none ∧
        schema.read i cursor = .ok (value, rest) ∧
        schema.view next = Function.update (schema.view slots) i (some value) := by
  have step : ∀ i, schema.visit slots (schema.name i) cursor = .ok (next, rest) ↔
      ∃ value, schema.view slots i = none ∧ schema.read i cursor = .ok (value, rest) ∧
        schema.view next = Function.update (schema.view slots) i (some value) := by
    intro i
    simp only [schema.visit_name, fill, bind_eq_ok, rejectIf_eq_ok, exists_const, Prod.exists,
      pure_eq_ok, Prod.mk.injEq, Option.not_isSome_iff_eq_none]
    constructor
    · rintro ⟨_, _, ⟨free, value, _, read, rfl, rfl⟩, rfl, rfl⟩
      exact ⟨value, free, read, schema.view.apply_symm_apply _⟩
    · rintro ⟨value, free, read, filled⟩
      exact ⟨_, _, ⟨free, value, _, read, rfl, rfl⟩,
        (schema.view.symm_apply_eq.mpr filled.symm), rfl⟩
  constructor
  · intro visited
    by_cases named : ∃ i, key = schema.name i
    · obtain ⟨i, rfl⟩ := named
      obtain ⟨value, found⟩ := (step i).mp visited
      exact ⟨i, value, rfl, found⟩
    · rw [not_exists] at named
      exact absurd visited (schema.visit_other slots key cursor named _)
  · rintro ⟨i, value, rfl, found⟩
    exact (step i).mpr ⟨value, found⟩

theorem delimited_append {spaces : Bytes} {byte : UInt8} (rest : Bytes) (blank : Spaces spaces)
    (ends : isNumberByte byte = false) : Delimited (spaces ++ byte :: rest) := by
  cases spaces with
  | nil =>
      intro first same
      cases same
      exact ends
  | cons space spaces =>
      intro first same
      cases same
      rw [Bool.eq_false_iff]
      intro inside
      have solid := isWhitespace_of_isNumberByte inside
      rw [isWhitespace_iff.mpr (blank _ List.mem_cons_self)] at solid
      cases solid

theorem advance_iff {cursor rest : Bytes} {byte : UInt8} :
    advance cursor = .ok (byte, rest) ↔ cursor = byte :: rest := by
  cases cursor with
  | nil => simp [advance]
  | cons first tail => simp [advance]

/-- What follows a field: another one, or the end of the object. -/
def Continues (fuel : Nat) (next final : σ) (byte : UInt8) (after rest : Bytes) : Prop :=
  byte = 0x2c ∧ objectFields schema.visit fuel next after = .ok (final, rest) ∨
    byte = 0x7d ∧ next = final ∧ after = rest

/-- One field of an object, as the parser takes it and as the grammar writes it. -/
theorem objectFields_succ_iff {fuel : Nat} :
    objectFields schema.visit (fuel + 1) slots cursor = .ok (final, rest) ↔
      ∃ i value text field next byte after, FieldText (schema.name i) text field ∧
        schema.Spells i text value ∧ cursor = field ++ byte :: after ∧
        schema.view slots i = none ∧
        schema.view next = Function.update (schema.view slots) i (some value) ∧
        schema.Continues fuel next final byte after rest := by
  constructor
  · intro read
    simp only [objectFields, bind_eq_ok, rejectIf_eq_ok, exists_const, Prod.exists, expect_iff,
      schema.visit_iff] at read
    obtain ⟨_, key, afterKey, readKey, afterColon, colonNext, next, afterValue,
      ⟨i, value, rfl, free, readValue, filled⟩, byte, after, last, continues⟩ := read
    obtain ⟨before, blankBefore, sameBefore⟩ := skipWhitespace_split cursor
    obtain ⟨colon, blankColon, sameColon⟩ := skipWhitespace_split afterKey
    obtain ⟨gap, blankGap, sameGap⟩ := skipWhitespace_split afterColon
    obtain ⟨trailing, blankTrailing, sameTrailing⟩ := skipWhitespace_split afterValue
    obtain ⟨quoted, spelledKey, sameKey⟩ :=
      string_reads.sound (skipWhitespace_idem cursor) readKey
    obtain ⟨text, spelled, sameText⟩ :=
      (schema.reads i).sound (skipWhitespace_idem afterColon) readValue
    rw [advance_iff] at last
    refine ⟨i, value, text, _, next, byte, after,
      ⟨quoted, before, colon, gap, trailing, spelledKey, blankBefore, blankColon, blankGap,
        blankTrailing, rfl⟩, spelled, ?_, free, filled, ?_⟩
    · rw [sameBefore, sameKey, sameColon, colonNext, sameGap, sameText, sameTrailing, last]
      simp only [List.append_assoc, List.cons_append]
    · split at continues
      · exact .inl ⟨‹_›, continues⟩
      · split at continues
        · rw [pure_eq_ok, Prod.mk.injEq] at continues
          exact .inr ⟨‹_›, continues⟩
        · cases continues
  · rintro ⟨i, value, text, _, next, byte, after, ⟨quoted, before, colon, gap, trailing, spelledKey,
      blankBefore, blankColon, blankGap, blankTrailing, rfl⟩, spelled, rfl, free, filled, continues⟩
    have stops : isNumberByte byte = false ∧ isWhitespace byte = false := by
      rcases continues with ⟨rfl, -⟩ | ⟨rfl, -⟩
      · exact ⟨rfl, rfl⟩
      · exact ⟨rfl, rfl⟩
    have readKey := string_reads.complete spelledKey
      (delimited_append (gap ++ (text ++ (trailing ++ byte :: after))) blankColon
        (show isNumberByte 0x3a = false from rfl))
    have readValue := (schema.reads i).complete spelled
      (delimited_append after blankTrailing stops.1)
    have solidKey := string_reads.solid spelledKey
      (colon ++ 0x3a :: (gap ++ (text ++ (trailing ++ byte :: after))))
    have solidValue := (schema.reads i).solid spelled (trailing ++ byte :: after)
    have starts : (quoted ++ (colon ++ 0x3a :: (gap ++ (text ++ (trailing ++ byte :: after))))).head?
        = some 0x22 := by
      rw [spelledKey.2]
      rfl
    simp only [objectFields, List.append_assoc, List.cons_append,
      skipWhitespace_append _ blankBefore, solidKey, bind_eq_ok, rejectIf_eq_ok, exists_const,
      Prod.exists, expect_iff, schema.visit_iff, advance_iff]
    refine ⟨not_not.mpr starts, _, _, readKey, gap ++ (text ++ (trailing ++ byte :: after)), ?_,
      next, trailing ++ byte :: after, ⟨i, value, rfl, free, ?_, filled⟩, byte, after, ?_, ?_⟩
    · rw [skipWhitespace_append _ blankColon]
      exact skipWhitespace_cons _ rfl
    · rw [skipWhitespace_append _ blankGap, solidValue, readValue]
    · rw [skipWhitespace_append _ blankTrailing, skipWhitespace_cons _ stops.2]
    · rcases continues with ⟨rfl, more⟩ | ⟨rfl, rfl, rfl⟩
      · exact more
      · rfl

/-- The slots that `order` names were free and now hold what their texts spell; the others are as
they were. -/
structure Fills (order : List ι) (text : ι → Bytes) (slots final : σ) : Prop where
  nodup : order.Nodup
  free : ∀ i ∈ order, schema.view slots i = none
  filled : ∀ i ∈ order, ∃ value, schema.Spells i (text i) value ∧ schema.view final i = some value
  kept : ∀ i, i ∉ order → schema.view final i = schema.view slots i

/-- The fields of an object, by their names. -/
def fields (order : List ι) (text : ι → Bytes) : List (Bytes × Bytes) :=
  order.map fun i => (schema.name i, text i)

theorem fields_congr {order : List ι} {text other : ι → Bytes}
    (same : ∀ i ∈ order, text i = other i) : schema.fields order text = schema.fields order other := by
  apply List.map_congr_left
  intro i inside
  rw [same i inside]

/-- A field, then the others. -/
theorem Fills.cons {schema : Schema σ ι} {order : List ι} {others : ι → Bytes} {i : ι} {text : Bytes}
    {value : schema.Value i} (spelled : schema.Spells i text value)
    (free : schema.view slots i = none)
    (filled : schema.view next = Function.update (schema.view slots) i (some value))
    (rest : schema.Fills order others next final) :
    i ∉ order ∧ schema.Fills (i :: order) (Function.update others i text) slots final := by
  have own : schema.view next i = some value := by rw [filled, Function.update_self]
  have fresh : i ∉ order := by
    intro inside
    have none := rest.free i inside
    rw [own] at none
    cases none
  have distinct : ∀ j ∈ order, j ≠ i := by
    rintro j inside rfl
    exact fresh inside
  have before : ∀ j, j ≠ i → schema.view next j = schema.view slots j := by
    intro j other
    rw [filled, Function.update_of_ne other]
  refine ⟨fresh, ⟨List.nodup_cons.mpr ⟨fresh, rest.nodup⟩, ?_, ?_, ?_⟩⟩
  · intro j inside
    rcases List.mem_cons.mp inside with rfl | inside
    · exact free
    · rw [← before j (distinct j inside)]
      exact rest.free j inside
  · intro j inside
    rcases List.mem_cons.mp inside with rfl | inside
    · refine ⟨value, ?_, ?_⟩
      · rw [Function.update_self]
        exact spelled
      · rw [rest.kept j fresh, own]
    · rw [Function.update_of_ne (distinct j inside)]
      exact rest.filled j inside
  · intro j outside
    rw [List.mem_cons, not_or] at outside
    rw [rest.kept j outside.2, before j outside.1]

/-- What the parser takes for the fields of an object are fields that fill its slots. -/
theorem objectFields_ok {fuel : Nat}
    (read : objectFields schema.visit fuel slots cursor = .ok (final, rest)) :
    ∃ order text inner, FieldsText (schema.fields order text) inner ∧
      cursor = inner ++ 0x7d :: rest ∧ schema.Fills order text slots final := by
  induction fuel generalizing slots cursor with
  | zero => cases read
  | succ fuel ih =>
      obtain ⟨i, value, text, field, next, byte, after, written, spelled, rfl, free, filled,
        continues⟩ := schema.objectFields_succ_iff.mp read
      rcases continues with ⟨rfl, more⟩ | ⟨rfl, rfl, rfl⟩
      · obtain ⟨order, others, inner, fieldsText, rfl, fills⟩ := ih more
        obtain ⟨fresh, all⟩ := Fills.cons spelled free filled fills
        refine ⟨i :: order, Function.update others i text, field ++ 0x2c :: inner, ?_, ?_, all⟩
        · have tail : schema.fields order (Function.update others i text) =
              schema.fields order others := by
            apply schema.fields_congr
            rintro j inside
            rw [Function.update_of_ne]
            rintro rfl
            exact fresh inside
          rw [fields, List.map_cons, Function.update_self, ← fields, tail]
          exact .more written fieldsText
        · rw [List.append_assoc, List.cons_append]
      · have nothing : schema.Fills [] (fun _ => []) next next :=
          ⟨List.nodup_nil, List.forall_mem_nil _, List.forall_mem_nil _, fun _ _ => rfl⟩
        obtain ⟨_, all⟩ := Fills.cons spelled free filled nothing
        refine ⟨[i], Function.update (fun _ => []) i text, field, ?_, rfl, all⟩
        rw [fields, List.map_singleton, Function.update_self]
        exact .single written

theorem fieldsText_cons_iff {key value : Bytes} {others : List (Bytes × Bytes)} {inner : Bytes} :
    FieldsText ((key, value) :: others) inner ↔
      others = [] ∧ FieldText key value inner ∨
      ∃ field tail, FieldText key value field ∧ FieldsText others tail ∧
        inner = field ++ 0x2c :: tail := by
  constructor
  · intro written
    cases written with
    | single field => exact .inl ⟨rfl, field⟩
    | more field rest => exact .inr ⟨_, _, field, rest, rfl⟩
  · rintro (⟨rfl, field⟩ | ⟨field, tail, first, rest, rfl⟩)
    · exact .single field
    · exact .more first rest

/-- The first field that is filled, then the others. -/
theorem Fills.uncons {schema : Schema σ ι} {order : List ι} {text : ι → Bytes} {i : ι}
    (fills : schema.Fills (i :: order) text slots final) :
    ∃ value next, schema.Spells i (text i) value ∧ schema.view slots i = none ∧
      schema.view next = Function.update (schema.view slots) i (some value) ∧
      schema.Fills order text next final := by
  obtain ⟨fresh, nodup⟩ := List.nodup_cons.mp fills.nodup
  obtain ⟨value, spelled, held⟩ := fills.filled i List.mem_cons_self
  have view := schema.view.apply_symm_apply
    (Function.update (schema.view slots) i (some value))
  refine ⟨value, _, spelled, fills.free i List.mem_cons_self, view, nodup, ?_, ?_, ?_⟩
  · intro j inside
    have other : j ≠ i := by
      rintro rfl
      exact fresh inside
    rw [view, Function.update_of_ne other]
    exact fills.free j (List.mem_cons_of_mem i inside)
  · intro j inside
    exact fills.filled j (List.mem_cons_of_mem i inside)
  · intro j outside
    rw [view]
    by_cases same : j = i
    · rw [same, Function.update_self, held]
    · rw [Function.update_of_ne same]
      apply fills.kept
      rw [List.mem_cons, not_or]
      exact ⟨same, outside⟩

theorem Fills.eq_of_nil {schema : Schema σ ι} {text : ι → Bytes}
    (fills : schema.Fills [] text slots final) : slots = final := by
  apply schema.view.injective
  funext i
  exact (fills.kept i List.not_mem_nil).symm

/-- The parser takes any fields that fill its slots, in any order. -/
theorem objectFields_eq {order : List ι} {text : ι → Bytes} {inner : Bytes} {fuel : Nat}
    (rest : Bytes) (written : FieldsText (schema.fields order text) inner)
    (fills : schema.Fills order text slots final) (enough : order.length ≤ fuel) :
    objectFields schema.visit fuel slots (inner ++ 0x7d :: rest) = .ok (final, rest) := by
  induction order generalizing slots inner fuel with
  | nil => cases written
  | cons i order ih =>
      obtain ⟨value, next, spelled, free, filled, others⟩ := fills.uncons
      cases fuel with
      | zero => exact absurd enough (Nat.not_succ_le_zero _)
      | succ fuel =>
          rw [schema.objectFields_succ_iff]
          rcases fieldsText_cons_iff.mp written with ⟨last, field⟩ | ⟨field, tail, first, more, rfl⟩
          · have empty : order = [] := List.map_eq_nil_iff.mp last
            rw [empty] at others
            exact ⟨i, value, text i, inner, next, 0x7d, rest, field, spelled, rfl, free, filled,
              .inr ⟨rfl, others.eq_of_nil, rfl⟩⟩
          · refine ⟨i, value, text i, field, next, 0x2c, tail ++ 0x7d :: rest, first, spelled, ?_,
              free, filled, .inl ⟨rfl, ih more others (Nat.le_of_succ_le_succ enough)⟩⟩
            rw [List.append_assoc, List.cons_append]

/-- The fields start with a quote, and there are no more of them than bytes. -/
theorem fieldsText_starts {fields : List (Bytes × Bytes)} {inner : Bytes} (rest : Bytes)
    (written : FieldsText fields inner) :
    fields.length ≤ inner.length ∧
      ∃ tail, skipWhitespace (inner ++ rest) = 0x22 :: tail ∧ fields.length ≤ tail.length + 1 := by
  induction written generalizing rest with
  | single field =>
      obtain ⟨_, before, colon, after, trailing, ⟨-, rfl⟩, blank, -, -, -, rfl⟩ := field
      constructor
      · simp only [List.length_append, List.length_cons, List.length_nil]
        omega
      · rw [List.append_assoc, skipWhitespace_append _ blank]
        exact ⟨_, skipWhitespace_cons _ rfl, Nat.le_add_left _ _⟩
  | more field more ih =>
      obtain ⟨_, before, colon, after, trailing, ⟨-, rfl⟩, blank, -, -, -, rfl⟩ := field
      have short := (ih []).1
      constructor
      · simp only [List.length_append, List.length_cons]
        omega
      · rw [List.append_assoc, List.append_assoc, skipWhitespace_append _ blank, List.cons_append,
          List.cons_append]
        refine ⟨_, skipWhitespace_cons _ rfl, ?_⟩
        simp only [List.length_append, List.length_cons]
        omega

theorem objectFields_skip {fuel : Nat} :
    objectFields schema.visit (fuel + 1) slots (skipWhitespace cursor) =
      objectFields schema.visit (fuel + 1) slots cursor := by
  rw [objectFields, objectFields, skipWhitespace_idem]

/-- Reading an object fills exactly the slots its fields name, each once. -/
theorem object_iff :
    object schema.visit slots cursor = .ok (final, rest) ↔
      ∃ order text body spaces, Spaces spaces ∧ ObjectText (schema.fields order text) body ∧
        cursor = spaces ++ (body ++ rest) ∧ schema.Fills order text slots final := by
  simp only [object, bind_eq_ok, expect_iff]
  constructor
  · rintro ⟨inside, brace, read⟩
    obtain ⟨spaces, blank, same⟩ := skipWhitespace_split cursor
    rw [brace] at same
    split at read
    · rename_i after closing
      cases read
      obtain ⟨gap, blankGap, sameGap⟩ := skipWhitespace_split inside
      rw [closing] at sameGap
      refine ⟨[], fun _ => [], 0x7b :: (gap ++ [0x7d]), spaces, blank,
        ⟨gap, .inl ⟨rfl, blankGap⟩, rfl⟩, ?_, List.nodup_nil, List.forall_mem_nil _,
        List.forall_mem_nil _, fun _ _ => rfl⟩
      rw [same, sameGap, List.cons_append, List.append_assoc, List.singleton_append]
    · rw [schema.objectFields_skip] at read
      obtain ⟨order, text, inner, written, rfl, fills⟩ := schema.objectFields_ok read
      refine ⟨order, text, 0x7b :: (inner ++ [0x7d]), spaces, blank, ⟨inner, .inr written, rfl⟩, ?_,
        fills⟩
      rw [same, List.cons_append, List.append_assoc, List.singleton_append]
  · rintro ⟨order, text, _, spaces, blank, ⟨inner, shape, rfl⟩, rfl, fills⟩
    refine ⟨inner ++ 0x7d :: rest, ?_, ?_⟩
    · rw [skipWhitespace_append _ blank, List.cons_append, List.append_assoc, List.singleton_append]
      exact skipWhitespace_cons _ rfl
    · rcases shape with ⟨empty, blankInner⟩ | written
      · have none : order = [] := List.map_eq_nil_iff.mp empty
        rw [none] at fills
        rw [skipWhitespace_append _ blankInner, skipWhitespace_cons _ rfl, fills.eq_of_nil]
        rfl
      · obtain ⟨-, tail, starts, short⟩ := fieldsText_starts (0x7d :: rest) written
        have enough : order.length ≤ tail.length + 1 + 1 := by
          have size : (schema.fields order text).length = order.length := List.length_map _
          omega
        have whole := schema.objectFields_eq rest written fills enough
        rw [← schema.objectFields_skip, starts] at whole
        rw [starts]
        exact whole

/-- Starting from free slots, an object fills `present` exactly when its fields are those, in any
order, and each text spells what its slot then holds. -/
theorem object_present_iff (present : List ι) (nodup : present.Nodup)
    (free : ∀ i, schema.view slots i = none)
    (known : ∀ i, i ∈ present ↔ schema.view final i ≠ none) :
    object schema.visit slots cursor = .ok (final, rest) ↔
      ∃ text order body spaces, order.Perm (schema.fields present text) ∧ ObjectText order body ∧
        Spaces spaces ∧ cursor = spaces ++ (body ++ rest) ∧
        ∀ i ∈ present, ∃ value, schema.Spells i (text i) value ∧ schema.view final i = some value := by
  rw [schema.object_iff]
  constructor
  · rintro ⟨order, text, body, spaces, blank, shape, same, fills⟩
    have members : ∀ i, i ∈ order ↔ i ∈ present := by
      intro i
      rw [known]
      constructor
      · intro inside
        obtain ⟨value, -, held⟩ := fills.filled i inside
        rw [held]
        exact Option.some_ne_none value
      · intro held
        by_contra outside
        exact held ((fills.kept i outside).trans (free i))
    have same' : order.Perm present := (List.perm_ext_iff_of_nodup fills.nodup nodup).mpr members
    refine ⟨text, _, body, spaces, same'.map _, shape, blank, same, ?_⟩
    intro i inside
    exact fills.filled i ((members i).mpr inside)
  · rintro ⟨text, order, body, spaces, shuffled, shape, blank, same, spelled⟩
    -- A permutation of the fields is the fields of a permutation.
    have reordered : Relation.Comp (· = List.map (fun i => (schema.name i, text i)) ·) List.Perm
        order present := by
      rw [List.eq_map_comp_perm]
      exact shuffled
    obtain ⟨names, rfl, perm⟩ := reordered
    refine ⟨names, text, body, spaces, blank, shape, same, perm.nodup_iff.mpr nodup, ?_, ?_, ?_⟩
    · intro i _
      exact free i
    · intro i inside
      exact spelled i (perm.mem_iff.mp inside)
    · intro i outside
      rw [perm.mem_iff, known, not_not] at outside
      rw [outside, free i]

/-- An object that fills every slot. -/
theorem object_all_iff (all : List ι) (nodup : all.Nodup) (every : ∀ i, i ∈ all)
    (free : ∀ i, schema.view slots i = none) (value : (i : ι) → schema.Value i) :
    object schema.visit slots cursor = .ok (schema.view.symm fun i => some (value i), rest) ↔
      ∃ text order body spaces, order.Perm (schema.fields all text) ∧ ObjectText order body ∧
        Spaces spaces ∧ cursor = spaces ++ (body ++ rest) ∧
        ∀ i, schema.Spells i (text i) (value i) := by
  have held : ∀ i, schema.view (schema.view.symm fun i => some (value i)) i = some (value i) :=
    fun i => congrFun (schema.view.apply_symm_apply _) i
  have known : ∀ i, i ∈ all ↔ schema.view (schema.view.symm fun i => some (value i)) i ≠ none := by
    intro i
    rw [held]
    exact iff_of_true (every i) (Option.some_ne_none _)
  rw [schema.object_present_iff all nodup free known]
  have spells : ∀ text : ι → Bytes,
      (∀ i ∈ all, ∃ found, schema.Spells i (text i) found ∧
        schema.view (schema.view.symm fun i => some (value i)) i = some found) ↔
      ∀ i, schema.Spells i (text i) (value i) := by
    intro text
    constructor
    · intro each i
      obtain ⟨found, spelled, same⟩ := each i (every i)
      rw [held, Option.some.injEq] at same
      rw [same]
      exact spelled
    · intro each i _
      exact ⟨value i, each i, held i⟩
  simp only [spells]

end Schema

end Verifier
