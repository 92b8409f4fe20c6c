import GenericNetlink.Fault
import GenericNetlink.Layout.Word

/-!
# Steps on machine words

A machine computes with words. A sum, a difference or a conversion whose result its type
does not hold is a trap: the computation has no result, not even a refusal.
-/

namespace GenericNetlink

inductive Trap
  /-- The result over unbounded integers is no value of the type. -/
  | overflow (type : IntType) (result : Int)
  /-- The positions from `start` up to `stop` are not all positions of `len` bytes. -/
  | outside (start stop : Int) (len : Nat)
  | lengths (range given : Int)
  deriving DecidableEq

inductive Stop
  | trap (t : Trap)
  | refused (fault : Fault)
  deriving DecidableEq

namespace Stop

def refuseIf (c : Prop) [Decidable c] (fault : Fault) : Except Stop Unit :=
  if c then .error (.refused fault) else .ok ()

variable {α β : Type}

theorem ok_bind (a : α) (f : α → Except Stop β) : (Except.ok a >>= f) = f a := rfl

theorem error_bind (e : Stop) (f : α → Except Stop β) : (Except.error e >>= f) = .error e := rfl

theorem throw_eq (e : Stop) : (throw e : Except Stop α) = .error e := rfl

section
variable {c : Prop} [Decidable c] (fault : Fault) (rest : Unit → Except Stop α)

theorem refuseIf_bind_of (h : c) : (refuseIf c fault >>= rest) = .error (.refused fault) := by
  rw [refuseIf, if_pos h, error_bind]

theorem refuseIf_bind_of_not (h : ¬c) : (refuseIf c fault >>= rest) = rest () := by
  rw [refuseIf, if_neg h, ok_bind]

end

end Stop

namespace IntType

def fit (t : IntType) (n : Int) : Except Stop Int :=
  if t.Holds n then .ok n else .error (.trap (.overflow t n))

def add (t : IntType) (a b : Int) : Except Stop Int := t.fit (a + b)

def sub (t : IntType) (a b : Int) : Except Stop Int := t.fit (a - b)

/-- A result that is asked for only where the type holds it. -/
def fit? (t : IntType) (n : Int) : Option Int := if t.Holds n then some n else none

section
variable {t : IntType} {n : Int}

theorem fit_of_holds (h : t.Holds n) : t.fit n = .ok n := if_pos h

theorem fit?_of_holds (h : t.Holds n) : t.fit? n = some n := if_pos h

theorem fit?_of_not_holds (h : ¬t.Holds n) : t.fit? n = none := if_neg h

end

end IntType

end GenericNetlink
