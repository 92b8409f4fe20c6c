import GenericNetlink.Layout.IndirectStruct

/-!
# Histories of a structure with pointers

The calls that change a structure with pointers, what they answer, and the steps
that a sequence of calls takes from a structure on. Every search for a token has
a source of its own, so that nothing links the candidates of one search to those
of another.
-/

namespace GenericNetlink.IndirectStruct

inductive Call : Type 1
  | setSlot (i : Nat) (value : Bytes)
  | newToken {σ : Type} (source : TokenSource σ) (state : σ)
  | pointSlot {σ : Type} (i : Nat) (payload : Bytes) (source : TokenSource σ) (state : σ)
  | insertPointer (t : PointerToken) (payload : Bytes)
  | editPointee (t : PointerToken) (f : Bytes → Bytes)
  | release (t : PointerToken)

inductive Answer
  | done
  | token (t : PointerToken)
  | payload (found : Option Bytes)
  deriving DecidableEq

def perform (s : IndirectStruct) : Call → Except Fault Answer × IndirectStruct
  | .setSlot i value =>
    let (outcome, s') := s.setSlot i value
    (outcome.map fun _ => .done, s')
  | .newToken source state =>
    let (outcome, s', _) := s.reserve source state
    (outcome.map .token, s')
  | .pointSlot i payload source state =>
    let (outcome, s', _) := s.pointSlot i payload source state
    (outcome.map .token, s')
  | .insertPointer t payload => (.ok (.payload (s.pointee? t)), s.insertPointer t payload)
  | .editPointee t f => (.ok (.payload (s.pointee? t)), s.modifyPointee t f)
  | .release t => (.ok (.payload (s.pointee? t)), s.release t)

structure Step : Type 1 where
  before : IndirectStruct
  call : Call
  answer : Except Fault Answer
  after : IndirectStruct

def step (s : IndirectStruct) (call : Call) : Step :=
  ⟨s, call, (s.perform call).1, (s.perform call).2⟩

@[simp] theorem before_step (s : IndirectStruct) (call : Call) : (s.step call).before = s := rfl

def history (s : IndirectStruct) : List Call → List Step
  | [] => []
  | call :: rest => s.step call :: history (s.step call).after rest

def run (s : IndirectStruct) (calls : List Call) : IndirectStruct :=
  calls.foldl (fun s call => (s.step call).after) s

theorem call_mem_of_mem_history {s : IndirectStruct} {calls : List Call} {e : Step}
    (he : e ∈ s.history calls) : e.call ∈ calls := by
  induction calls generalizing s with
  | nil => cases he
  | cons call rest ih =>
    obtain rfl | he := List.mem_cons.mp he
    · exact List.mem_cons_self
    · exact List.mem_cons_of_mem _ (ih he)

/-- What follows a step in a history is a history from where the step ended. -/
theorem history_after {s : IndirectStruct} {calls : List Call} {earlier later : List Step}
    {e : Step} (h : s.history calls = earlier ++ e :: later) :
    ∃ rest, later = e.after.history rest := by
  induction earlier generalizing s calls with
  | nil =>
    cases calls with
    | nil => cases h
    | cons call rest =>
      cases h
      exact ⟨rest, rfl⟩
  | cons first earlier ih =>
    cases calls with
    | nil => cases h
    | cons call rest =>
      obtain ⟨-, h⟩ := List.cons.inj h
      exact ih h

end GenericNetlink.IndirectStruct
