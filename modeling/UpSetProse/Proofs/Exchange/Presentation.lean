import UpSetProse.Exchange.Presentation
import UpSetProse.Proofs.Json.Decoding

/-!
# Presentations survive their export

What is exported is read back as the same presentation, and so is every document that is got from
an export by writing some keys and memberships with their second names.
-/

namespace UpSetProse

open Json (Legible NamedAs decode fields?_record required withDefault)

private theorem legible_optionalText : Legible (Json.ofOption Json.text) :=
  Json.legible_text.option fun _ => Json.noConfusion

private theorem legible_texts : Legible Json.ofTexts := Json.legible_text.list

/-- Bounds of degrees that are not set are null. -/
theorem Filters.legible : Legible Filters.toJson := by
  intro filters
  have hlimit : Legible (Json.ofOption fun n : UInt32 => .natural n.toNat) :=
    Json.legible_uint32.option fun _ => Json.noConfusion
  change ofJson? filters.toJson = some filters
  rw [ofJson?, toJson, fields?_record (by simp [NamedAs]) (by decide)]
  simp [withDefault, hlimit _, Json.legible_bool _]

theorem Metadata.legible : Legible Metadata.toJson := by
  intro metadata
  change ofJson? metadata.toJson = some metadata
  rw [ofJson?, toJson, fields?_record (by simp [NamedAs]) (by decide)]
  simp [withDefault, legible_optionalText _]

/-- A bookmark has all its fields. -/
theorem Bookmark.legible : Legible Bookmark.toJson := by
  intro bookmark
  change ofJson? bookmark.toJson = some bookmark
  rw [ofJson?, toJson, fields?_record (by simp [NamedAs]) (by decide)]
  simp [required, Json.legible_text _, Json.legible_uint64 _]

/-! ### Second names -/

namespace Json

/-- Changes the members of an object one by one. -/
def mapMembers (edit : String → Json → String × Json) : Json → Json
  | .object members => .object (members.map fun
    | (some name, value) => (some (edit name value).1, (edit name value).2)
    | (none, value) => (none, value))
  | other => other

/-- The members of a record are edited one by one. -/
theorem mapMembers_record (edit : String → Json → String × Json) (members : List (String × Json)) :
    mapMembers edit (.record members) =
      .record (members.map fun (name, value) => edit name value) := by
  simp [mapMembers, record, Function.comp_def]

/-- An edit that changes no member changes no document. -/
theorem mapMembers_eq_self {edit : String → Json → String × Json}
    (h : ∀ name value, edit name value = (name, value)) (document : Json) :
    mapMembers edit document = document := by
  cases document with
  | object members =>
    rw [mapMembers]
    congr 1
    apply List.map_id''
    rintro ⟨_ | name, value⟩
    · rfl
    · simp [h]
  | null | bool | number | string | array => rfl

end Json

/-- Which keys and memberships of a document are written with their second names. -/
structure Respelling where
  /-- The keys, by their first names. -/
  keys : String → Bool
  /-- The memberships, by the names of their sets. -/
  memberships : String → Bool

namespace Respelling

/-- The keys that have second names. -/
def secondKeys : List (String × String) :=
  [("sortOrder", "sortByOrder"), ("visibleAtts", "visibleAttributes")]

/-- The second names of memberships. -/
def secondMemberships : List (String × String) := [("Yes", "yes"), ("No", "no"), ("May", "may")]

variable (r : Respelling)

/-- The name that a key is written with. -/
def key (name : String) : String :=
  if r.keys name then (secondKeys.lookup name).getD name else name

/-- Respells the membership of a set. -/
def membership (set : String) : Json → Json
  | .string (some name) =>
    .text (if r.memberships set then (secondMemberships.lookup name).getD name else name)
  | other => other

/-- Respells the memberships of a query. -/
def query : Json → Json :=
  Json.mapMembers fun name value =>
    (name, if name = "query" then
      Json.mapMembers (fun set membership => (set, r.membership set membership)) value
    else value)

/-- Respells the memberships in what a key stands for. -/
def value (name : String) (given : Json) : Json :=
  if name = "setQuery" then r.query given else given

/-- Respells an exported presentation. -/
def document : Json → Json := Json.mapMembers fun name value => (r.key name, r.value name value)

/-- The respelling that leaves all first names. -/
def idle : Respelling := ⟨fun _ => false, fun _ => false⟩

private theorem membership_idle (set : String) (given : Json) :
    idle.membership set given = given := by
  unfold membership
  split <;> rfl

private theorem query_idle (given : Json) : idle.query given = given := by
  unfold query
  apply Json.mapMembers_eq_self
  intro name memberships
  split
  · rw [Json.mapMembers_eq_self fun set membership => by rw [membership_idle]]
  · rfl

/-- The spelling of the export is one of the spellings. -/
theorem document_idle (exported : Json) : idle.document exported = exported := by
  unfold document
  apply Json.mapMembers_eq_self
  intro name given
  unfold value
  split
  · rw [query_idle]
    rfl
  · rfl

/-- Every key stays one of the names of its field, if their second names are such names too. -/
theorem namedAs {table : List (List String)} {members : List (String × Json)}
    (hsecond : ∀ names ∈ table, ∀ name ∈ names, (secondKeys.lookup name).getD name ∈ names)
    (h : NamedAs table members) (edit : String → Json → Json) :
    NamedAs table (members.map fun (name, value) => (r.key name, edit name value)) := by
  induction h with
  | nil => exact .nil
  | @cons names member _ _ hmember _ ih =>
    obtain ⟨hnames, hsecond⟩ := List.forall_mem_cons.mp hsecond
    refine .cons ?_ (ih hsecond)
    by_cases hkey : r.keys member.1
    · simpa [key, hkey] using hnames member.1 hmember
    · simpa [key, hkey] using hmember

end Respelling

/-- A membership is read in upper and in lower case. -/
theorem QueryMembership.legible (r : Respelling) (set : String) :
    Legible fun membership : QueryMembership => r.membership set (.text membership.exportName) := by
  intro membership
  cases hset : r.memberships set <;> cases membership <;>
    simp [Respelling.membership, Json.text, hset] <;> rfl

/-- A query is read whichever of its memberships are spelled in lower case. -/
theorem SetQuery.legible (r : Respelling) :
    Legible fun query : SetQuery => r.query query.toJson := by
  intro query
  have hmemberships : decode (.record (query.memberships.entries.map fun entry =>
      (entry.1, r.membership entry.1 (.text entry.2.exportName)))) = some query.memberships :=
    Legible.table (QueryMembership.legible r) query.memberships
  have hquery : r.query query.toJson =
      .record [("name", .text query.name),
        ("query", .record (query.memberships.entries.map fun entry =>
          (entry.1, r.membership entry.1 (.text entry.2.exportName))))] := by
    simp [Respelling.query, toJson, Json.mapMembers_record, Function.comp_def]
  change ofJson? (r.query query.toJson) = some query
  rw [hquery, ofJson?, fields?_record (by simp [NamedAs]) (by decide)]
  simp [required, Json.legible_text _, hmemberships]

namespace Presentation

private theorem legible_sizes :
    Legible fun sizes : NameTable Size =>
      .record (sizes.entries.map fun (name, size) => (name, .natural size.toNat)) :=
  Legible.table fun _ => Json.legible_uint64

/-- A respelled query is still that of the presentation, or absent. -/
private theorem legible_setQuery (r : Respelling) :
    Legible fun setQuery : Option SetQuery => r.query (.ofOption SetQuery.toJson setQuery) := by
  intro setQuery
  have hquery : r.query (.ofOption SetQuery.toJson setQuery) =
      .ofOption (fun query => r.query query.toJson) setQuery := by
    cases setQuery <;> rfl
  have hlegible := (SetQuery.legible r).option fun _ => Json.noConfusion
  simp only [hquery]
  exact hlegible setQuery

/-- A presentation is read back however it is spelled. -/
theorem legible (r : Respelling) : Legible fun p : Presentation => r.document p.toJson := by
  intro p
  change ofJson? (r.document p.toJson) = some p
  rw [Respelling.document, toJson, Json.mapMembers_record, ofJson?,
    fields?_record (r.namedAs (by decide) (by simp [NamedAs, fieldNames]) r.value) (by decide)]
  simp [Respelling.value, withDefault, Json.legible_keyword _, legible_texts _, legible_sizes _,
    Filters.legible _, Metadata.legible _, Bookmark.legible.list _, legible_setQuery r _]

/-- What is exported is read back, also where second names take the place of first ones. -/
theorem ofJson?_respelled (p : Presentation) :
    ofJson? p.toJson = some p ∧ ∀ r : Respelling, ofJson? (r.document p.toJson) = some p := by
  have hrespelled := fun r => legible r p
  refine ⟨?_, hrespelled⟩
  have hidle := hrespelled .idle
  simp only [Respelling.document_idle] at hidle
  exact hidle

/-- All names of an excerpt respelled. -/
example : Respelling.document ⟨fun _ => true, fun _ => true⟩
      (.record [("sortOrder", .text "ascending"), ("visibleAtts", .array []),
        ("setQuery", .record [("name", .text "no comedy"),
          ("query", .record [("Comedy", .text "No"), ("Drama", .text "Yes")])])]) =
    .record [("sortByOrder", .text "ascending"), ("visibleAttributes", .array []),
      ("setQuery", .record [("name", .text "no comedy"),
        ("query", .record [("Comedy", .text "no"), ("Drama", .text "yes")])])] := by
  rfl

end Presentation

end UpSetProse
