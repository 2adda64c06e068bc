import CacheSteward.Record.Field

namespace CacheSteward

structure Subnet where
  subnetId : String
  zoneName : String
deriving Repr, DecidableEq

namespace Subnet

def title : String := "Subnet"

def ofEntries (es : List (Value × Value)) : Checked Subnet :=
  Subnet.mk <$> Field.required "subnet_id" Field.text es <*>
    Field.required "zone_name" Field.text es

def read (v : Value) : Checked Subnet := (Field.recordEntries v).andThen ofEntries

def document (subnet : Subnet) : Value :=
  .fields [("subnet_id", .text subnet.subnetId), ("zone_name", .text subnet.zoneName)]

def wire (subnet : Subnet) : Value :=
  .fields [("subnetId", .text subnet.subnetId), ("zoneName", .text subnet.zoneName)]

end Subnet

end CacheSteward
