/-
Merging one nested table over another.

Where both tables hold a table under the same key the two are merged in turn; everywhere else what
the upper table holds replaces what the lower one held.  The keys of the lower table keep their
places, and the new keys of the upper one follow in their order.

The recursion is on the upper table alone: `mergeInto` puts its entries into the lower table one
after the other, and `over` says what one of them becomes on top of what was there before.
-/
import ComputeNodes.Value

namespace ComputeNodes

mutual

/-- What a value becomes when it is laid over the one that was there before. -/
def Value.over (old : Option Value) : Value → Value
  | .table upper =>
    match old with
    | some (.table lower) => .table (Table.mergeInto lower upper)
    | _ => .table upper
  | value => value

/-- Lays the entries of a table over another one, one after the other. -/
def Table.mergeInto (lower : List (String × Value)) : List (String × Value) → List (String × Value)
  | [] => lower
  | (key, value) :: rest =>
    Table.mergeInto (Entries.put lower key (Value.over (Entries.find? lower key) value)) rest

end

/-- Merges the upper table over the lower one. -/
def Table.merge (lower upper : Table) : Table := Table.mergeInto lower upper

end ComputeNodes
