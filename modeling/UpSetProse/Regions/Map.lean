import UpSetProse.Regions.Share

/-!
# Where each kind lies

A kind lies in every region of which it holds a large share, or else in the region where its share
is largest, the one of larger sizes on a tie. The empty intersection lies where its rows are.
-/

namespace UpSetProse

/-- The regions that each kind is assigned to, in order. A kind that lies nowhere is not
assigned. -/
structure RegionMap where
  regions? : Kind → Option (List Region)

namespace RegionMap

/-- The share, in percent, from which on a kind lies in a region. -/
def assignedFrom : Double := 35

/-- The later of two regions with percentages, if its percentage is greater. -/
def better (best next : Region × Double) : Region × Double :=
  if best.2.lt next.2 then next else best

/-- The first region with the greatest percentage. -/
def best? : List (Region × Double) → Option (Region × Double)
  | [] => none
  | first :: rest => some (rest.foldl better first)

/-- The regions that list a kind, with their percentages. -/
def present (shares : RegionShares) (kind : Kind) : List (Region × Double) :=
  (Keyword.all : List Region).filterMap fun region =>
    (shares region).bind fun share => (share.percentage kind).map (region, ·)

/-- The regions of a kind other than the empty intersection. -/
def chosen (present : List (Region × Double)) : List Region :=
  let dominated := present.filter fun entry => assignedFrom.le entry.2
  if dominated.isEmpty then (best? present).toList.map (·.1) else dominated.map (·.1)

/-- The regions that hold an empty intersection. -/
def holdingEmpty (shares : RegionShares) : List Region :=
  (Keyword.all : List Region).filter fun region =>
    (shares region).any fun share => share.emptySize.isSome

/-- Selects the regions of every kind from the shares. A kind that no region lists is passed
over. -/
def select (shares : RegionShares) : RegionMap where
  regions?
    | .empty =>
      let holding := holdingEmpty shares
      if holding.isEmpty then none else some holding
    | kind =>
      let present := present shares kind
      if present.isEmpty then none else some (chosen present)

/-- Determines where the kinds of some rows lie. -/
def ofRows (rows : List Row) : Except Overflow RegionMap :=
  select <$> (RegionRows.ofRows rows).shares

/-- The kinds that are assigned, with their regions. -/
def assignments (map : RegionMap) : List (Kind × List Region) :=
  (Keyword.all : List Kind).filterMap fun kind => (map.regions? kind).map (kind, ·)

/-- The regions that a kind lies in. -/
def regions (map : RegionMap) (kind : Kind) : List Region := (map.regions? kind).getD []

/-- Whether no kind lies anywhere. -/
def isEmpty (map : RegionMap) : Bool := map.assignments.isEmpty

end RegionMap
end UpSetProse
