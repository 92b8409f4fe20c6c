import GenericNetlink.Family.Table
import GenericNetlink.Sample.Point

/-!
# Payloads of mixed objects

A session handles objects of several types at once. Their payloads are families,
points or plain numbers, and `Payload` holds any of them.
-/

namespace GenericNetlink

open Text

inductive Payload
  | family (record : Family.Record)
  | point (p : Point)
  | number (n : UInt32)
  deriving DecidableEq

namespace Payload

instance : Carries Payload Family.Record where
  kind := "family"
  wrap := .family
  read?
    | .family record => some record
    | _ => none
  read?_wrap _ := rfl
  wrap_of_read? {p a} h := by cases p <;> simp_all

instance : Carries Payload Point where
  kind := "point"
  wrap := .point
  read?
    | .point p => some p
    | _ => none
  read?_wrap _ := rfl
  wrap_of_read? {p a} h := by cases p <;> simp_all

instance : Carries Payload UInt32 where
  kind := "number"
  wrap := .number
  read?
    | .number n => some n
    | _ => none
  read?_wrap _ := rfl
  wrap_of_read? {p a} h := by cases p <;> simp_all

instance : Inspect Payload where
  shown
    | .family record => Inspect.shown record
    | .point p => Inspect.shown p
    | .number n => .nat n.toNat

def markConstructed (a : Attributed Payload) : Attributed Payload :=
  match a.data with
  | .point p => a.withData <| .point { p with constructed := true }
  | _ => a

def presetFirst (a : Attributed Payload) : Attributed Payload :=
  match a.data with
  | .point p => Object.contentsOf (Point.setX ⟨a.mask, p⟩ 7)
  | .family r => Object.contentsOf (Family.setId ⟨a.mask, r⟩ 16)
  | .number _ => a

end Payload

end GenericNetlink
