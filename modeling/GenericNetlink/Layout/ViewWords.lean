import GenericNetlink.Layout.Checked
import GenericNetlink.Layout.View

/-!
# Views on machine words

The operations on views once more, one step at a time on words of 64 bits: offsets are
signed words, positions and lengths unsigned ones. A sum, a difference or a conversion
whose result its type does not hold stops the computation with a trap, and so does an
access outside the bytes that it is made in. Refusals are as they were.
-/

namespace GenericNetlink

namespace Bytes

/-- The positions of an access have to lie in the bytes. -/
def access (b : Bytes) (start stop : Int) : Except Stop Unit :=
  if 0 ≤ start ∧ start ≤ stop ∧ stop ≤ b.length then .ok ()
  else .error (.trap (.outside start stop b.length))

def load (b : Bytes) (start stop : Int) : Except Stop Bytes := do
  b.access start stop
  return b.slice start.toNat stop.toNat

def store (b : Bytes) (start stop : Int) (value : Bytes) : Except Stop Bytes := do
  b.access start stop
  if stop - start = value.length then return b.overwrite start.toNat value
  else throw (.trap (.lengths (stop - start) value.length))

theorem access_of_inside {b : Bytes} {start stop : Int}
    (h : 0 ≤ start ∧ start ≤ stop ∧ stop ≤ b.length) : b.access start stop = .ok () :=
  if_pos h

theorem load_of_inside {b : Bytes} {start stop : Int}
    (h : 0 ≤ start ∧ start ≤ stop ∧ stop ≤ b.length) :
    b.load start stop = .ok (b.slice start.toNat stop.toNat) := by
  rw [load, access_of_inside h]
  rfl

theorem store_of_inside {b value : Bytes} {start stop : Int}
    (h : 0 ≤ start ∧ start ≤ stop ∧ stop ≤ b.length) (hv : stop - start = value.length) :
    b.store start stop value = .ok (b.overwrite start.toNat value) := by
  rw [store, access_of_inside h]
  exact if_pos hv

end Bytes

def Bound.IsWord : Bound → Prop
  | .included position | .excluded position => position ≤ largestPosition
  | .unbounded => True

namespace View.OnWords

open IntType (i64 u64)
open Stop (refuseIf)

def len (v : View) : Except Stop Int := u64.sub v.stop v.start

def fromEnd (len offset : Int) : Except Stop Int :=
  if offset < 0 then i64.add offset len else return offset

def selectStop (len first : Int) : Option Int → Except Stop Int
  | none => return len
  | some stop => if stop = 0 then return first else return max (← fromEnd len stop) first

def select (parent : Bytes) (start : Int) (stop : Option Int) : Except Stop (Int × Int) := do
  let len ← i64.fit parent.length
  let first ← fromEnd len start
  let last ← selectStop len first stop
  refuseIf (first < 0 ∨ len < first ∨ len < last) (.invalidRange first last parent.length)
  return (← u64.fit first, ← u64.fit last)

def checkParent (v : View) (parent : Bytes) : Except Stop Unit :=
  if parent.length < v.stop then do
    throw (.refused (.invalidRange (← i64.fit v.start) (← i64.fit v.stop) parent.length))
  else return ()

def resolveIndex (v : View) (index : Int) : Except Stop Int := do
  let length ← len v
  let limit ← i64.fit length
  let resolved ← fromEnd limit index
  refuseIf (resolved < 0 ∨ limit ≤ resolved) (.indexOutOfRange index length.toNat)
  u64.fit resolved

def read (v : View) (parent : Bytes) : Except Stop Bytes := do
  checkParent v parent
  parent.load v.start v.stop

def get (v : View) (parent : Bytes) (index : Int) : Except Stop UInt8 := do
  let position ← resolveIndex v index
  let byte ← (← read v parent).load position (position + 1)
  return byte.getD 0 0

def set (v : View) (parent : Bytes) (index : Int) (value : UInt8) : Except Stop Bytes := do
  let position ← resolveIndex v index
  checkParent v parent
  let position ← u64.add v.start position
  parent.store position (position + 1) [value]

def splice (v : View) (parent : Bytes) (start stop : Int) (value : Bytes) :
    Except Stop Bytes := do
  let length ← len v
  let stop := min stop length
  refuseIf (length < start ∨ (start = length ∧ length ≠ 0))
    (.indexOutOfRange ((i64.fit? start).getD largestIndex) length.toNat)
  let target := (u64.fit? (stop - start)).getD 0
  refuseIf (target ≠ value.length) (.viewLength target.toNat value.length)
  checkParent v parent
  let first ← u64.add v.start start
  let last ← u64.add first target
  parent.store first last value

def first (len : Int) : Bound → Except Stop Int
  | .included position => return position
  | .excluded position =>
    (u64.fit? (position + 1)).elim (throw (.refused (.indexOutOfRange largestIndex len.toNat))) pure
  | .unbounded => return 0

/-- One past the last position of a range, or the largest word if that is the last position. -/
def last (len : Int) : Bound → Int
  | .included position => (u64.fit? (position + 1)).getD Bound.largestPosition
  | .excluded position => position
  | .unbounded => len

def replace (v : View) (parent : Bytes) (lo hi : Bound) (value : Bytes) : Except Stop Bytes := do
  let length ← len v
  splice v parent (← first length lo) (last length hi) value

def sliceStop (len first : Int) : Option Int → Except Stop Int
  | none => return len
  | some stop =>
    if stop = 0 then return first
    else if stop < 0 then return max (← i64.add stop len) 0
    else return stop

def replaceSlice (v : View) (parent : Bytes) (start : Int) (stop : Option Int) (value : Bytes) :
    Except Stop Bytes := do
  let length ← i64.fit (← len v)
  let first ← fromEnd length start
  if first < 0 then throw (.refused (.indexOutOfRange start (← len v).toNat))
  else
    let last ← sliceStop length first stop
    splice v parent (← u64.fit first) (← u64.fit last) value

end View.OnWords

end GenericNetlink
