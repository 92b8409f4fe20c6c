import GenericNetlink.Layout.FixedStruct

/-!
# Histories of structures

A structure is made, and from then on it and its clones are edited, each by the number
under which it was made. The same calls can be made on plain buffers that are read with
the declared widths: nothing there knows how long a buffer has to be.
-/

namespace GenericNetlink.FixedStruct

inductive Made (widths : List Nat) : FixedStruct → Prop
  | zeroed {s : FixedStruct} (h : FixedStruct.zeroed widths = .ok s) : Made widths s
  | decoded {data : Bytes} {s : FixedStruct} (h : decode widths data = .ok s) : Made widths s

theorem Made.widths_eq {widths : List Nat} {s : FixedStruct} (h : Made widths s) :
    s.widths = widths := by
  obtain ⟨hlt, -⟩ | ⟨-, n, -, hsum⟩ := sumWidths_cases widths
  · cases h with
    | zeroed h =>
      obtain ⟨_, hw, -, hz⟩ := zeroed_of_lt hlt
      cases hz.symm.trans h
      exact hw
    | @decoded data _ h =>
      obtain ⟨-, hd⟩ | ⟨-, _, hw, -, hd⟩ := decode_of_lt hlt data <;> cases hd.symm.trans h
      exact hw
  -- Nothing is made if the sum is no word.
  · cases h with
    | zeroed h => cases (zeroed_of_trap hsum).symm.trans h
    | @decoded data _ h => cases (decode_of_trap hsum data).symm.trans h

/-- What setting a field does to a buffer, of whatever length, that is read with `widths`. -/
def setBufferField (widths : List Nat) (b : Bytes) (i : Nat) (value : Bytes) :
    Except Fault Unit × Bytes :=
  match widths[i]? with
  | none => (.error (.fieldIndex i widths.length), b)
  | some w =>
    if w = value.length then (.ok (), b.overwrite (totalWidth (widths.take i)) value)
    else (.error (.fieldLength i w value.length), b)

def Edit.onBuffer (widths : List Nat) (b : Bytes) : Edit → Except Fault Unit × Bytes
  | .setField i value => setBufferField widths b i value
  | .write t i n => setBufferField widths b i (t.encode n)
  | .view v edit => v.apply b edit

theorem setField_eq_setBufferField (s : FixedStruct) (i : Nat) (value : Bytes) :
    ((s.setField i value).1, (s.setField i value).2.bytes) =
      setBufferField s.widths s.bytes i value := by
  unfold setBufferField
  obtain ⟨hw, h⟩ | ⟨w, hw, hl, h⟩ | ⟨hw, t, -, hb, h⟩ := s.setField_cases i value <;> rw [hw, h]
  · rfl
  · exact (if_neg hl).symm
  · rw [hb]
    exact (if_pos rfl).symm

theorem apply_eq_onBuffer (s : FixedStruct) (edit : Edit) :
    ((s.apply edit).1, (s.apply edit).2.bytes) = edit.onBuffer s.widths s.bytes := by
  cases edit with
  | setField i value => exact s.setField_eq_setBufferField i value
  | write t i n => exact s.setField_eq_setBufferField i (t.encode n)
  | view v edit => rfl

inductive Call
  | clone (k : Nat)
  | edit (k : Nat) (edit : Edit)
  deriving DecidableEq

section
variable {α β : Type}

/-- What there is after a call, `apply` being the effect of an edit. A number that was
not given yet stands for nothing. -/
def Call.perform (apply : α → Edit → α) (pool : List α) : Call → List α
  | .clone k =>
    match pool[k]? with
    | none => pool
    | some a => pool ++ [a]
  | .edit k e =>
    match pool[k]? with
    | none => pool
    | some a => pool.set k (apply a e)

def Call.run (apply : α → Edit → α) (origin : α) (calls : List Call) : List α :=
  calls.foldl (Call.perform apply) [origin]

theorem Call.forall_mem_perform {apply : α → Edit → α} {holds : α → Prop}
    (hedit : ∀ a e, holds a → holds (apply a e)) {pool : List α}
    (hpool : ∀ a ∈ pool, holds a) (call : Call) : ∀ a ∈ call.perform apply pool, holds a := by
  intro a ha
  cases call with
  | clone k =>
    simp only [perform] at ha
    split at ha
    · exact hpool a ha
    · rename_i b hb
      obtain ha | ha := List.mem_append.mp ha
      · exact hpool a ha
      · rw [List.mem_singleton.mp ha]
        exact hpool b (List.mem_of_getElem? hb)
  | edit k e =>
    simp only [perform] at ha
    split at ha
    · exact hpool a ha
    · rename_i b hb
      obtain ha | rfl := List.mem_or_eq_of_mem_set ha
      · exact hpool a ha
      · exact hedit b e (hpool b (List.mem_of_getElem? hb))

theorem Call.forall_mem_run {apply : α → Edit → α} (holds : α → Prop)
    (hedit : ∀ a e, holds a → holds (apply a e)) {origin : α} (ho : holds origin)
    (calls : List Call) : ∀ a ∈ Call.run apply origin calls, holds a := by
  suffices ∀ pool : List α, (∀ a ∈ pool, holds a) →
      ∀ a ∈ calls.foldl (Call.perform apply) pool, holds a from
    this [origin] (by simpa using ho)
  induction calls with
  | nil => exact fun _ hpool => hpool
  | cons call rest ih => exact fun _ hpool => ih _ (call.forall_mem_perform hedit hpool)

theorem Call.map_perform {applyα : α → Edit → α} {applyβ : β → Edit → β} {view : α → β}
    {pool : List α} (h : ∀ a ∈ pool, ∀ e, view (applyα a e) = applyβ (view a) e)
    (call : Call) : (call.perform applyα pool).map view = call.perform applyβ (pool.map view) := by
  cases call with
  | clone k =>
    simp only [perform, List.getElem?_map]
    cases pool[k]? with
    | none => rfl
    | some a => exact List.map_append
  | edit k e =>
    simp only [perform, List.getElem?_map]
    cases hk : pool[k]? with
    | none => rfl
    | some a =>
      show (pool.set k (applyα a e)).map view = (pool.map view).set k (applyβ (view a) e)
      rw [List.map_set, h a (List.mem_of_getElem? hk)]

end

def edited (s : FixedStruct) (edit : Edit) : FixedStruct := (s.apply edit).2

def editedBuffer (widths : List Nat) (b : Bytes) (edit : Edit) : Bytes :=
  (edit.onBuffer widths b).2

theorem bytes_edited (s : FixedStruct) (edit : Edit) :
    (s.edited edit).bytes = editedBuffer s.widths s.bytes edit :=
  congrArg Prod.snd (s.apply_eq_onBuffer edit)

def run (origin : FixedStruct) (calls : List Call) : List FixedStruct :=
  Call.run edited origin calls

def runBuffers (widths : List Nat) (origin : Bytes) (calls : List Call) : List Bytes :=
  Call.run (editedBuffer widths) origin calls

theorem widths_run (origin : FixedStruct) (calls : List Call) :
    ∀ s ∈ origin.run calls, s.widths = origin.widths :=
  Call.forall_mem_run (fun s : FixedStruct => s.widths = origin.widths)
    (fun s edit h => (s.widths_apply edit).trans h) rfl calls

example : (zeroed [1, 2]).map (fun s =>
      (run s [.clone 0, .edit 1 (.setField 1 [7, 8])]).map (·.bytes)) =
    .ok [[0, 0, 0], [0, 7, 8]] := rfl

end GenericNetlink.FixedStruct
