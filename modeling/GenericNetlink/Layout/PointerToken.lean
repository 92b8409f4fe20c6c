import GenericNetlink.Text.Inspect
import GenericNetlink.Layout.Word

/-!
# Pointer tokens

A token stands in a structure where a pointer would stand. It is a key into the
structure's own table of payloads, not an address. `TokenSource` yields the
candidates for new tokens: it may be any stream of nonzero words.
-/

namespace GenericNetlink

open Text

structure PointerToken where
  value : UInt64
  deriving DecidableEq

namespace PointerToken

def bytes (t : PointerToken) : Bytes := littleEndian SizeOf.pointer t.value.toNat

/-- The token of zero bytes, which no source draws. -/
def null : PointerToken := ⟨0⟩

def ofBytes? (b : Bytes) : Option PointerToken :=
  if b.length = SizeOf.pointer then some ⟨UInt64.ofNat (ofLittleEndian b)⟩ else none

instance : Inspect PointerToken where
  shown t := .wrapped "PointerToken" (.bytes t.bytes)

theorem wordCount_pointer : wordCount SizeOf.pointer = UInt64.size := rfl

@[simp] theorem length_bytes (t : PointerToken) : t.bytes.length = SizeOf.pointer := by
  simp [bytes]

theorem bytes_null : null.bytes = List.replicate SizeOf.pointer 0 := rfl

theorem value_ne_zero_iff {t : PointerToken} : t.value ≠ 0 ↔ t ≠ null :=
  not_congr ⟨fun h => congrArg mk h, congrArg value⟩

@[simp] theorem ofBytes?_bytes (t : PointerToken) : ofBytes? t.bytes = some t := by
  have ht := t.value.toNat_lt
  have hv : ofLittleEndian t.bytes = t.value.toNat := by
    rw [bytes, ofLittleEndian_littleEndian, wordCount_pointer]
    exact Nat.mod_eq_of_lt ht
  simp [ofBytes?, hv]

theorem bytes_of_ofBytes? {b : Bytes} {t : PointerToken} (h : ofBytes? b = some t) :
    t.bytes = b := by
  unfold ofBytes? at h
  split at h
  · rename_i hl
    cases h
    have hb := ofLittleEndian_lt b
    rw [hl, wordCount_pointer] at hb
    have hv : (UInt64.ofNat (ofLittleEndian b)).toNat = ofLittleEndian b := by
      rw [UInt64.toNat_ofNat']
      exact Nat.mod_eq_of_lt hb
    simp only [bytes, hv]
    rw [← hl, littleEndian_ofLittleEndian]
  · cases h

theorem ofBytes?_eq_some_iff {b : Bytes} {t : PointerToken} :
    ofBytes? b = some t ↔ b = t.bytes :=
  ⟨fun h => (bytes_of_ofBytes? h).symm, fun h => h ▸ ofBytes?_bytes t⟩

example : inspect (⟨1⟩ : PointerToken) = "PointerToken([1, 0, 0, 0, 0, 0, 0, 0])" := by decide

end PointerToken

-- ---------------------------------------------------------------------------
-- Where candidates for new tokens come from
-- ---------------------------------------------------------------------------

structure TokenSource (σ : Type) where
  draw : σ → PointerToken × σ
  draw_ne_zero : ∀ state, (draw state).1.value ≠ 0

namespace TokenSource

/-- The first of at most `attempts` candidates that is not `taken`, and the state
of the source after the last draw. -/
def firstFree {σ : Type} (source : TokenSource σ) (taken : PointerToken → Bool) :
    Nat → σ → Option PointerToken × σ
  | 0, state => (none, state)
  | attempts + 1, state =>
    let (candidate, next) := source.draw state
    if taken candidate then source.firstFree taken attempts next else (some candidate, next)

section
variable {σ : Type} (source : TokenSource σ)

def after : Nat → σ → σ
  | 0, state => state
  | count + 1, state => after count (source.draw state).2

def candidate (state : σ) (k : Nat) : PointerToken := (source.draw (source.after k state)).1

/-- The two ends of a search: the first free candidate, drawn after taken ones only, or
no free one among those that may be drawn. -/
theorem firstFree_cases (taken : PointerToken → Bool) (attempts : Nat) (state : σ) :
    (∃ k < attempts, taken (source.candidate state k) = false ∧
      (∀ j < k, taken (source.candidate state j) = true) ∧
      source.firstFree taken attempts state =
        (some (source.candidate state k), source.after (k + 1) state)) ∨
    ((∀ k < attempts, taken (source.candidate state k) = true) ∧
      source.firstFree taken attempts state = (none, source.after attempts state)) := by
  induction attempts generalizing state with
  | zero => exact .inr ⟨fun _ h => absurd h (Nat.not_lt_zero _), rfl⟩
  | succ attempts ih =>
    cases hc : taken (source.draw state).1 with
    | false =>
      refine .inl ⟨0, Nat.succ_pos _, hc, fun _ h => absurd h (Nat.not_lt_zero _), ?_⟩
      simp only [firstFree, hc]
      rfl
    | true =>
      have hstep : source.firstFree taken (attempts + 1) state =
          source.firstFree taken attempts (source.draw state).2 := by
        simp only [firstFree, hc]
        rfl
      rw [hstep]
      -- The candidates after the first one are those of the state that it leaves.
      have hall : ∀ {n}, (∀ j < n, taken (source.candidate (source.draw state).2 j) = true) →
          ∀ j < n + 1, taken (source.candidate state j) = true := by
        intro n h j hj
        cases j with
        | zero => exact hc
        | succ j => exact h j (Nat.lt_of_succ_lt_succ hj)
      obtain ⟨k, hk, hfree, htaken, h⟩ | ⟨htaken, h⟩ := ih (source.draw state).2
      · exact .inl ⟨k + 1, Nat.succ_lt_succ hk, hfree, hall htaken, h⟩
      · exact .inr ⟨hall htaken, h⟩

end

/-- The nonzero word that a random word is mapped to. Zero takes the place of
one, and one itself is drawn again, so that no nonzero word is likelier than another. -/
def nonzero? (word : UInt64) : Option UInt64 :=
  if word = 1 then none else if word = 0 then some 1 else some word

theorem ne_zero_of_nonzero? {word w : UInt64} (h : nonzero? word = some w) : w ≠ 0 := by
  unfold nonzero? at h
  split at h
  · cases h
  · split at h
    · cases h
      decide
    · cases h
      assumption

def drawScript (last : UInt64) : List UInt64 → UInt64 × List UInt64
  | [] => ((nonzero? last).getD 1, [])
  | word :: rest =>
    match nonzero? word with
    | some w => (w, rest)
    | none => drawScript last rest

theorem drawScript_ne_zero (last : UInt64) (words : List UInt64) :
    (drawScript last words).1 ≠ 0 := by
  induction words with
  | nil =>
    simp only [drawScript]
    cases h : nonzero? last with
    | none => decide
    | some w => exact ne_zero_of_nonzero? h
  | cons word rest ih =>
    simp only [drawScript]
    cases h : nonzero? word with
    | none => exact ih
    | some w => exact ne_zero_of_nonzero? h

def scripted (last : UInt64) : TokenSource (List UInt64) where
  draw words := let (w, rest) := drawScript last words; (⟨w⟩, rest)
  draw_ne_zero words := drawScript_ne_zero last words

def progression (start step : UInt64) (count : Nat) : List UInt64 :=
  (List.range count).map fun k => start + step * UInt64.ofNat k

def scramble (counter : UInt64) : UInt64 :=
  let z := (counter ^^^ (counter >>> 30)) * 0xbf58476d1ce4e5b9
  let z := (z ^^^ (z >>> 27)) * 0x94d049bb133111eb
  z ^^^ (z >>> 31)

def scrambled : TokenSource UInt64 where
  draw counter :=
    let next := counter + 0x9e3779b97f4a7c15
    let w := scramble next
    (⟨if w = 0 then 1 else w⟩, next)
  draw_ne_zero counter := by
    simp only
    split
    · decide
    · assumption

end TokenSource

end GenericNetlink
