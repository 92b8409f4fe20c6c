import GenericNetlink.Fault
import GenericNetlink.Object.AttrDiff
import GenericNetlink.Object.Dumper

/-!
# Points

A second kind of object: a labelled point. It has fewer attributes than a family
and hooks that a family does not need, and so serves to exercise the generic
operations on mixed objects.
-/

namespace GenericNetlink

open Text

structure Point where
  x : Int
  label : String
  constructed : Bool
  deriving DecidableEq

namespace Point

def blank : Point := ⟨0, "", false⟩

def xBit : Mask := 1

def labelBit : Mask := 2

def recordSize : Nat := 40

instance : Inspect Point where
  shown p := .record "Point"
    [("x", .int p.x), ("label", .quoted p.label), ("constructed", .bool p.constructed)] true

def x? (p : Attributed Point) : Option Int := p.get? xBit (·.x)

def label? (p : Attributed Point) : Option String := p.get? labelBit (·.label)

def setX (p : Attributed Point) (x : Int) : Attributed Point := p.set xBit ({ · with x })

/-- Store a coordinate without marking it present. -/
def pokeX (p : Attributed Point) (x : Int) : Attributed Point := p.withData { p.data with x }

def setLabel (p : Attributed Point) (label : String) : Attributed Point :=
  p.set labelBit ({ · with label })

def diff (p q : Attributed Point) (attrs : Mask) (flags : CompareFlags) : Mask :=
  (((AttrDiff.start p.mask q.mask attrs flags).check xBit (p.data.x != q.data.x)).check labelBit
    (p.data.label != q.data.label)).finish

def jointDiff (p q : Attributed Point) (attrs : Mask) (flags : CompareFlags) : Mask :=
  ((AttrDiff.start p.mask q.mask attrs flags).check (xBit ||| labelBit)
    (p.data.x != q.data.x || p.data.label != q.data.label)).finish

def writeLine (p : Attributed Point) (d : Dumper) : Dumper :=
  d.startLine ("x=" ++ signedDecimal ((x? p).getD 0) ++ "\n")

def writeDetails (p : Attributed Point) (d : Dumper) : Dumper :=
  (writeLine p d).startLine ("  label=" ++ (label? p).getD "-" ++ "\n")

def writeStats (p : Attributed Point) (d : Dumper) : Dumper :=
  (writeDetails p d).startLine ("  attrs=" ++ hex p.mask.toNat ++ "\n")

def write (p : Attributed Point) : Verbosity → Dumper → Dumper
  | .line => writeLine p
  | .details => writeDetails p
  | .stats => writeStats p

end Point

end GenericNetlink
