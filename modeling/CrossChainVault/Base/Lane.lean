import Mathlib.Data.List.Basic

set_option autoImplicit false

/- A one-way lane: its sender numbers and chains every message, and its receiver takes the messages
one after another in that order. -/

namespace Lane

variable {α δ : Type}

/-- How the messages of a lane name their place: each carries a number and the digest of everything
before it. -/
structure Chain (α δ : Type) where
  number : α → Nat
  previous : α → δ
  genesis : δ
  extend : δ → α → δ

variable (chain : Chain α δ)

def Chain.digest (log : List α) : δ := log.foldl chain.extend chain.genesis

/-- The i-th message has number i + 1 and names the digest of those before it. -/
structure Chain.Ordered (log : List α) : Prop where
  numbered : ∀ i message, log[i]? = some message → chain.number message = i + 1
  linked : ∀ i message, log[i]? = some message →
    chain.previous message = chain.digest (log.take i)

/-- The sender's log, number and digest, and how much of it the receiver has taken. -/
structure Chain.Carries (log : List α) (next : Nat) (last : δ) (taken : Nat) (received : δ) :
    Prop where
  ordered : chain.Ordered log
  next : next = log.length + 1
  last : last = chain.digest log
  within : taken ≤ log.length
  received : received = chain.digest (log.take taken)

section Digest

variable {chain} {log : List α} {message : α}

@[simp] theorem digest_snoc : chain.digest (log ++ [message]) =
    chain.extend (chain.digest log) message := by
  simp [Chain.digest]

/-- The next message is the head of what was not taken yet. -/
theorem take_succ {taken : Nat} {rest : List α} (pending : log.drop taken = message :: rest) :
    log.take (taken + 1) = log.take taken ++ [message] ∧ log.drop (taken + 1) = rest := by
  have here : log[taken]? = some message := by
    rw [← List.head?_drop, pending]
    rfl
  refine ⟨?_, ?_⟩
  · rw [List.take_add_one, here]
    rfl
  · rw [← List.drop_drop, pending]
    rfl

theorem Chain.Ordered.snoc (ordered : chain.Ordered log)
    (number : chain.number message = log.length + 1)
    (previous : chain.previous message = chain.digest log) : chain.Ordered (log ++ [message]) := by
  constructor
  · intro i other found
    rcases Nat.lt_or_ge i log.length with earlier | later
    · rw [List.getElem?_append_left earlier] at found
      exact ordered.numbered i other found
    · rw [List.getElem?_append_right later, List.getElem?_singleton] at found
      split at found
      · cases found
        omega
      · cases found
  · intro i other found
    rcases Nat.lt_or_ge i log.length with earlier | later
    · rw [List.getElem?_append_left earlier] at found
      rw [List.take_append_of_le_length (Nat.le_of_lt earlier)]
      exact ordered.linked i other found
    · rw [List.getElem?_append_right later, List.getElem?_singleton] at found
      split at found
      · cases found
        rw [List.take_append_of_le_length (by omega), List.take_of_length_le later]
        exact previous
      · cases found

end Digest

section Carries

variable {chain} {log : List α} {next taken : Nat} {last received : δ} {message : α}

theorem carries_empty : chain.Carries [] 1 chain.genesis 0 chain.genesis where
  ordered := ⟨nofun, nofun⟩
  next := rfl
  last := rfl
  within := Nat.le_refl _
  received := rfl

theorem Chain.Carries.publish (carries : chain.Carries log next last taken received)
    (number : chain.number message = next) (previous : chain.previous message = last) :
    chain.Carries (log ++ [message]) (next + 1) (chain.extend last message) taken received where
  ordered := carries.ordered.snoc (number.trans carries.next) (previous.trans carries.last)
  next := by
    rw [carries.next, List.length_append]
    rfl
  last := by rw [digest_snoc, carries.last]
  within := by
    rw [List.length_append]
    exact Nat.le_add_right_of_le carries.within
  received := by
    rw [List.take_append_of_le_length carries.within]
    exact carries.received

theorem Chain.Carries.pending_snoc (carries : chain.Carries log next last taken received) :
    (log ++ [message]).drop taken = log.drop taken ++ [message] :=
  List.drop_append_of_le_length carries.within

/-- A message of the log with the next number is the first one still on the way. -/
theorem Chain.Carries.pending (carries : chain.Carries log next last taken received)
    (member : message ∈ log) (number : chain.number message = taken + 1) :
    log.drop taken = message :: log.drop (taken + 1) := by
  obtain ⟨i, found⟩ := List.mem_iff_getElem?.mp member
  have place := carries.ordered.numbered i message found
  have same : i = taken := by omega
  subst same
  obtain ⟨inside, rfl⟩ := List.getElem?_eq_some_iff.mp found
  exact List.drop_eq_getElem_cons inside

theorem Chain.Carries.deliver (carries : chain.Carries log next last taken received)
    {rest : List α} (pending : log.drop taken = message :: rest) :
    chain.Carries log next last (taken + 1) (chain.extend received message) where
  ordered := carries.ordered
  next := carries.next
  last := carries.last
  within := by
    have := congrArg List.length pending
    simp only [List.length_drop, List.length_cons] at this
    omega
  received := by rw [(take_succ pending).1, digest_snoc, carries.received]

/-- What the first message still on the way carries. -/
theorem Chain.Carries.head (carries : chain.Carries log next last taken received)
    {rest : List α} (pending : log.drop taken = message :: rest) :
    chain.number message = taken + 1 ∧ chain.previous message = received := by
  have here : log[taken]? = some message := by
    rw [← List.head?_drop, pending]
    rfl
  refine ⟨carries.ordered.numbered taken message here, ?_⟩
  rw [carries.received]
  exact carries.ordered.linked taken message here

/-- What the sender's log and state become by a move that may publish. -/
def Chain.Speaks (log : List α) (next : Nat) (last : δ) (sent : Option α) (log' : List α)
    (next' : Nat) (last' : δ) : Prop :=
  match sent with
  | none => log' = log ∧ next' = next ∧ last' = last
  | some message => chain.number message = next ∧ chain.previous message = last ∧
      log' = log ++ [message] ∧ next' = next + 1 ∧ last' = chain.extend last message

/-- What the receiver's place becomes by a move that may take a message. -/
def Chain.Hears (taken : Nat) (received : δ) (delivered : Option α) (taken' : Nat) (received' : δ) :
    Prop :=
  match delivered with
  | none => taken' = taken ∧ received' = received
  | some message => chain.number message = taken + 1 ∧ taken' = taken + 1 ∧
      received' = chain.extend received message

theorem Chain.Carries.speak {sent : Option α} {log' : List α} {next' : Nat} {last' : δ}
    (carries : chain.Carries log next last taken received)
    (speaks : chain.Speaks log next last sent log' next' last') :
    chain.Carries log' next' last' taken received ∧
      log'.drop taken = log.drop taken ++ sent.toList := by
  cases sent with
  | none =>
      obtain ⟨rfl, rfl, rfl⟩ := speaks
      exact ⟨carries, (List.append_nil _).symm⟩
  | some message =>
      obtain ⟨number, previous, rfl, rfl, rfl⟩ := speaks
      exact ⟨carries.publish number previous, carries.pending_snoc⟩

theorem Chain.Carries.hear {delivered : Option α} {taken' : Nat} {received' : δ}
    (carries : chain.Carries log next last taken received)
    (members : ∀ message ∈ delivered, message ∈ log)
    (hears : chain.Hears taken received delivered taken' received') :
    chain.Carries log next last taken' received' ∧
      log.drop taken = delivered.toList ++ log.drop taken' := by
  cases delivered with
  | none =>
      obtain ⟨rfl, rfl⟩ := hears
      exact ⟨carries, rfl⟩
  | some message =>
      obtain ⟨number, rfl, rfl⟩ := hears
      have pending := carries.pending (members message rfl) number
      exact ⟨carries.deliver pending, pending⟩

end Carries

/- The shape of what is still on the way. -/

/-- One marked message, only `P` before it and `T` after it. -/
def Marked (P Q : α → Prop) (T : List α → Prop) (queue : List α) : Prop :=
  ∃ before message after, queue = before ++ message :: after ∧ (∀ m ∈ before, P m) ∧ Q message ∧
    T after

section Marked

variable {P P' Q Q' : α → Prop} {T T' : List α → Prop} {queue : List α} {message : α}

theorem all_snoc (all : ∀ m ∈ queue, P m) (new : P message) : ∀ m ∈ queue ++ [message], P m := by
  intro m member
  rcases List.mem_append.mp member with earlier | here
  · exact all m earlier
  · cases List.mem_singleton.mp here
    exact new

theorem Marked.snoc_mark (all : ∀ m ∈ queue, P m) (mark : Q message) (nothing : T []) :
    Marked P Q T (queue ++ [message]) :=
  ⟨queue, message, [], rfl, all, mark, nothing⟩

theorem Marked.snoc (marked : Marked P Q T queue) (keeps : ∀ after, T after → T' (after ++ [message]))
    : Marked P Q T' (queue ++ [message]) := by
  obtain ⟨before, mark, after, rfl, all, isMark, tail⟩ := marked
  exact ⟨before, mark, after ++ [message], by simp, all, isMark, keeps after tail⟩

/-- Either the marked message comes first, or one of those before it. -/
theorem Marked.cons (marked : Marked P Q T (message :: queue)) :
    P message ∧ Marked P Q T queue ∨ Q message ∧ T queue := by
  obtain ⟨before, mark, after, same, all, isMark, tail⟩ := marked
  cases before with
  | nil =>
      cases same
      exact .inr ⟨isMark, tail⟩
  | cons first before =>
      cases same
      exact .inl ⟨all _ List.mem_cons_self, before, mark, after, rfl,
        fun m member => all m (List.mem_cons_of_mem _ member), isMark, tail⟩

end Marked

end Lane
