import GenericNetlink.Credentials
import GenericNetlink.Family.Dump
import GenericNetlink.Json.Builder
import GenericNetlink.Json.Encode
import GenericNetlink.Output.Sink

/-!
# Printing

Objects as text for people or as JSON documents for programs. JSON leaves out
absent attributes; the lists of a family are always there.
-/

namespace GenericNetlink

open Text

structure PrintOptions where
  stats : Bool
  details : Bool
  pretty : Bool
  deriving DecidableEq

def PrintOptions.verbosity (options : PrintOptions) : Verbosity :=
  if options.stats then .stats else if options.details then .details else .line

inductive PrintFormat
  | text
  | json
  deriving DecidableEq

class Printable (α : Type) where
  text : α → PrintOptions → String
  json : α → Json

def printed (encoder : Json.Encoder) {α : Type} [Printable α] (a : α) (format : PrintFormat)
    (options : PrintOptions) : String :=
  match format with
  | .text => Printable.text a options
  | .json => encoder.document options.pretty (Printable.json a)

def Sink.print (s : Sink) (encoder : Json.Encoder) {α : Type} [Printable α] (a : α)
    (format : PrintFormat) (options : PrintOptions) : Sink :=
  s.write (printed encoder a format options)

def Sink.writeDocuments (s : Sink) (encoder : Json.Encoder) (isPretty : Bool)
    (values : List Json) : Sink :=
  values.foldl (fun s value => s.write (encoder.document isPretty value)) s

namespace Family

def Op.toJson (op : Op) : Json :=
  ((Json.Builder.empty.uint "id" op.id.toUInt64).string "flags" op.flags.names).build

def Group.toJson (group : Group) : Json :=
  ((Json.Builder.empty.uint "id" group.id.toUInt64).string "name" group.name).build

def toJson (f : Family) : Json :=
  let scalars := Json.Builder.empty
    |>.uint? "id" (f.id?.map (·.toUInt64))
    |>.string? "name" f.name?
    |>.uint? "version" (f.version?.map (·.toUInt64))
    |>.uint? "hdrsize" (f.hdrsize?.map (·.toUInt64))
    |>.uint? "maxattr" (f.maxattr?.map (·.toUInt64))
  ((scalars.array "ops" (f.ops.map Op.toJson)).array "groups" (f.groups.map Group.toJson)).build

instance : Printable Family where
  text f options := f.dump options.verbosity
  json := toJson

end Family

namespace Ucred

def toJson (c : Ucred) : Json :=
  let b := Json.Builder.empty.uint "pid" c.pid.toUInt64
  ((b.uint "uid" c.uid.toUInt64).uint "gid" c.gid.toUInt64).build

instance : Printable Ucred where
  text c _ := c.display ++ "\n"
  json := toJson

end Ucred

example : printed .standard (Family.empty.setId 0x1a) .json ⟨false, false, false⟩ =
    "\x7b\"groups\":[],\"id\":26,\"ops\":[]\x7d\n" := by decide

end GenericNetlink
