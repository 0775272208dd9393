import UpSetProse.Regions.Bucket

/-!
# Shares of the kinds in a region

The size of a region without its empty intersection is shared by the kinds of its rows. The empty
intersection is not a share of it, only its size is kept.
-/

namespace UpSetProse

/-- What a region is made up of. -/
structure RegionShare where
  /-- The percentage of each kind that the region has a row of. -/
  percentage : Kind → Option Double
  /-- The total size of the empty intersections, if the region has any. -/
  emptySize : Option Size

/-- The shares of the regions that have any. -/
abbrev RegionShares := Region → Option RegionShare

namespace RegionShare

/-- Whether the region has no rows. -/
def isEmpty (share : RegionShare) : Bool :=
  (Keyword.all : List Kind).all (fun kind => (share.percentage kind).isNone) &&
    share.emptySize.isNone

/-- The rows of a kind. -/
def ofKind (rows : List Row) (kind : Kind) : List Row := rows.filter fun row => row.kind == kind

/-- The total size of a kind, if there is a row of it. -/
def kindTotal (rows : List Row) (kind : Kind) : Except Overflow (Option Size) :=
  let members := ofKind rows kind
  if members.isEmpty then .ok none else some <$> Size.total (members.map (·.size))

/-- A size as a percentage of a pool; nothing is a share of an empty pool. -/
def percentOf (pool size : Size) : Double :=
  if pool = 0 then 0 else .ofNat size.toNat / .ofNat pool.toNat * 100

/-- The kinds that share the size of a region. -/
def sharingKinds : List Kind := [.individual, .low, .medium, .highOrder, .allSets]

/-- Determines the shares among the rows of one region. -/
def ofRows (rows : List Row) : Except Overflow RegionShare := do
  let emptySize ← kindTotal rows .empty
  let totals ← sharingKinds.mapM fun kind => return (kind, ← kindTotal rows kind)
  let pool ← Size.total (totals.filterMap (·.2))
  return {
    percentage := fun kind => (totals.lookup kind).join.map (percentOf pool)
    emptySize }

end RegionShare

namespace RegionRows

/-- The shares of every region that has rows. -/
def shares (regions : RegionRows) : Except Overflow RegionShares := do
  let shares ← (Keyword.all : List Region).mapM fun region =>
    return (region, ← RegionShare.ofRows (regions.members region))
  return fun region => (shares.lookup region).filter fun share => !share.isEmpty

end RegionRows
end UpSetProse
