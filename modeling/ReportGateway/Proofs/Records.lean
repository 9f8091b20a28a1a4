import ReportGateway.Cluster.Basic
import ReportGateway.Report.Basic
import ReportGateway.Rule.Content
import ReportGateway.Rule.Group
import ReportGateway.Proofs.Rereading
import ReportGateway.Proofs.Scanning

/-!
The records that go over the wire. A record that was read from any text, as an object or as an
array, is written as an object with its fields' names, and reading that text gives the same record
again (`written_reads_back`): what was missing comes out as its default, and a default is read as
itself. Doubles in opaque data stay out of this. Passing a text on any number of times changes
nothing that a reader can see.
-/

namespace ReportGateway

open Json (Value Document Fields Read Faithful)

section Readers

open Json

variable (room : Nat)

theorem RuleHit.faithful : Faithful RuleHit.read RuleHit.toJson room := by
  refine faithful_record (by decide) (fun _ => List.Sublist.refl _) ?_
  intro room present h _ hread hexact
  simp only [↓bind_eq_some, Option.pure_def, Option.some.injEq] at hread
  obtain ⟨component, -, key, -, vote, hvote, disabled, -, feedback, -, disabledAt, -, details,
    hdetails, createdAt, -, rfl⟩ := hread
  have hvote := Fields.reread_withDefault hvote (faithful_int32 _) (int32_zero _) (.int vote)
  have hdetails := Fields.reread_withDefault hdetails (faithful_opaqueData _) (null_document _)
    (by simpa using hexact)
  simp [↓bind_eq_some, Fields.required, Fields.withDefault, List.lookup_cons, hvote, hdetails]

/-- An empty list is a default here, and reading it takes a level of nesting inside the record. -/
theorem RuleContent.faithful : Faithful RuleContent.read RuleContent.toJson (room + 2) := by
  refine faithful_record (by decide) (fun _ => List.Sublist.refl _) ?_
  intro inner present c hroom hread _
  obtain rfl : inner = room + 1 := by omega
  simp only [↓bind_eq_some, Option.pure_def, Option.some.injEq] at hread
  obtain ⟨ruleId, -, errorKey, -, description, -, generic, -, reason, -, resolution, -, moreInfo, -,
    risk, hrisk, change, hchange, tags, htags, internal, -, osd, -, published, -, rfl⟩ := hread
  have hrisk := Fields.reread_withDefault hrisk (faithful_int32 _) (int32_zero _) (.int risk)
  have hchange := Fields.reread_withDefault hchange (faithful_int32 _) (int32_zero _) (.int change)
  have htags := Fields.reread_withDefault htags (faithful_texts _) rfl (Value.isExact_strings tags)
  simp [↓bind_eq_some, Fields.required, Fields.withDefault, List.lookup_cons, hrisk, hchange, htags]

theorem RuleEntry.faithful : Faithful RuleEntry.read RuleEntry.toJson room := by
  refine faithful_record (by decide) (fun _ => List.Sublist.refl _) ?_
  intro room present e _ hread hexact
  simp only [↓bind_eq_some, Option.pure_def, Option.some.injEq] at hread
  obtain ⟨ruleId, -, errorKey, -, createdAt, -, description, -, generic, -, reason, -,
    resolution, -, moreInfo, -, risk, hrisk, change, hchange, disabled, -, feedback, -,
    disabledAt, -, internal, -, vote, hvote, extra, hextra, tags, htags, rfl⟩ := hread
  have hrisk := Fields.reread_required hrisk (faithful_int32 _) (.int risk)
  have hchange := Fields.reread_required hchange (faithful_int32 _) (.int change)
  have hvote := Fields.reread_required hvote (faithful_int32 _) (.int vote)
  have hextra := Fields.reread_required hextra (faithful_opaqueData _) (by simpa using hexact)
  have htags := Fields.reread_required htags (faithful_texts _) (Value.isExact_strings tags)
  simp [↓bind_eq_some, Fields.required, List.lookup_cons, hrisk, hchange, hvote, hextra, htags]

theorem ReportMeta.faithful : Faithful ReportMeta.read ReportMeta.toJson room := by
  refine faithful_record (by decide) ?_ ?_
  · intro m
    cases m.gatheredAt <;> simp [ReportMeta.fieldNames]
  · intro room present m _ hread _
    simp only [↓bind_eq_some, Option.pure_def, Option.some.injEq] at hread
    obtain ⟨count, hcount, checked, -, gathered, -, rfl⟩ := hread
    have hcount := Fields.reread_withDefault hcount (faithful_int64 _) (int64_zero _) (.int count)
    cases gathered <;> simp [↓bind_eq_some, Fields.withDefault, List.lookup_cons, hcount]

theorem ReportMeta.isExact_toJson (m : ReportMeta) : m.toJson.IsExact := by
  cases hgathered : m.gatheredAt <;> simp [ReportMeta.toJson, hgathered]

theorem ReportMeta.empty_document :
    ReportMeta.read (room + 1) ReportMeta.empty.toJson.document = some .empty := by
  have hfields : Fields.ofDocument? ReportMeta.fieldNames (room + 1)
      ReportMeta.empty.toJson.document = some ⟨room, _⟩ :=
    Fields.ofDocument?_document (by decide) (by decide) room
  rw [ReportMeta.read, hfields]
  simp [ReportMeta.empty, Fields.withDefault, List.lookup_cons, int64_zero]

theorem Report.faithful : Faithful Report.read Report.toJson (room + 2) := by
  refine faithful_record (by decide) (fun _ => List.Sublist.refl _) ?_
  intro inner present r hroom hread hexact
  obtain rfl : inner = room + 1 := by omega
  simp only [↓bind_eq_some, Option.pure_def, Option.some.injEq] at hread
  obtain ⟨metadata, hmetadata, hits, hhits, rfl⟩ := hread
  obtain ⟨hexactMetadata, hexactHits⟩ : metadata.toJson.IsExact ∧
      (Value.array (hits.map RuleHit.toJson)).IsExact := by simpa using hexact
  have hmetadata := Fields.reread_withDefault hmetadata (ReportMeta.faithful _)
    (ReportMeta.empty_document room) hexactMetadata
  have hhits := Fields.reread_withDefault hhits (faithful_listOf RuleHit.faithful _) rfl hexactHits
  simp [↓bind_eq_some, Fields.withDefault, List.lookup_cons, hmetadata, hhits]

theorem ReportInfo.faithful : Faithful ReportInfo.read ReportInfo.toJson room := by
  refine faithful_record (by decide) (fun _ => List.Sublist.refl _) ?_
  intro room present i _ hread _
  simp only [↓bind_eq_some, Option.pure_def, Option.some.injEq] at hread
  obtain ⟨count, hcount, checked, -, stored, -, rfl⟩ := hread
  have hcount := Fields.reread_withDefault hcount (faithful_int64 _) (int64_zero _) (.int count)
  simp [↓bind_eq_some, Fields.withDefault, List.lookup_cons, hcount]

theorem ClusterReports.faithful :
    Faithful ClusterReports.read ClusterReports.toJson (room + 2) := by
  refine faithful_record (by decide) (fun _ => List.Sublist.refl _) ?_
  intro inner present r hroom hread hexact
  obtain rfl : inner = room + 1 := by omega
  simp only [↓bind_eq_some, Option.pure_def, Option.some.injEq] at hread
  obtain ⟨clusters, hclusters, errors, herrors, reports, hreports, generated, -, status, -,
    rfl⟩ := hread
  have hclusters := Fields.reread_withDefault hclusters (faithful_texts _) rfl
    (Value.isExact_strings clusters)
  have herrors := Fields.reread_withDefault herrors (faithful_texts _) rfl
    (Value.isExact_strings errors)
  have hreports := Fields.reread_withDefault hreports (faithful_opaqueMap _) rfl
    (by simpa using hexact)
  simp [↓bind_eq_some, Fields.withDefault, List.lookup_cons, hclusters, herrors, hreports]

theorem Cluster.faithful : Faithful Cluster.read Cluster.toJson room := by
  refine faithful_record (by decide) ?_ ?_
  · intro c
    cases c.status <;> simp [Cluster.fieldNames]
  · intro room present c _ hread _
    simp only [↓bind_eq_some, Option.pure_def, Option.some.injEq] at hread
    obtain ⟨id, -, displayName, -, status, -, rfl⟩ := hread
    cases status <;> simp [↓bind_eq_some, Fields.required, Fields.withDefault, List.lookup_cons]

theorem Cluster.isExact_toJson (c : Cluster) : c.toJson.IsExact := by
  cases hstatus : c.status <;> simp [Cluster.toJson, hstatus]

theorem ClusterSet.faithful : Faithful ClusterSet.read ClusterSet.toJson room := by
  refine faithful_record (by decide) (fun _ => List.Sublist.refl _) ?_
  intro room present s _ hread hexact
  simp only [↓bind_eq_some, Option.pure_def, Option.some.injEq] at hread
  obtain ⟨clusters, hclusters, names, hnames, rfl⟩ := hread
  obtain ⟨hexactClusters, hexactNames⟩ : (Value.array (clusters.map Cluster.toJson)).IsExact ∧
      (Value.object (names.map fun m => (m.1, Value.string m.2))).IsExact := by simpa using hexact
  have hclusters := Fields.reread_required hclusters (faithful_listOf Cluster.faithful _)
    hexactClusters
  have hnames := Fields.reread_required hnames (faithful_mapOf faithful_text _) hexactNames
  simp [↓bind_eq_some, Fields.required, List.lookup_cons, hclusters, hnames]

theorem RuleGroup.faithful : Faithful RuleGroup.read RuleGroup.toJson (room + 2) := by
  refine faithful_record (by decide) (fun _ => List.Sublist.refl _) ?_
  intro inner present g hroom hread _
  obtain rfl : inner = room + 1 := by omega
  simp only [↓bind_eq_some, Option.pure_def, Option.some.injEq] at hread
  obtain ⟨title, -, description, -, tags, htags, rfl⟩ := hread
  have htags := Fields.reread_withDefault htags (faithful_texts _) rfl (Value.isExact_strings tags)
  simp [↓bind_eq_some, Fields.required, Fields.withDefault, List.lookup_cons, htags]

end Readers

namespace Records

/-- The kinds of records that go over the wire. -/
inductive Kind
  | ruleHit
  | ruleContent
  | ruleEntry
  | reportMeta
  | report
  | reportInfo
  | clusterReports
  | cluster
  | clusterSet
  | ruleGroup

namespace Kind

/-- The records of a kind. -/
def Carrier : Kind → Type
  | ruleHit => RuleHit
  | ruleContent => RuleContent
  | ruleEntry => RuleEntry
  | reportMeta => ReportMeta
  | report => Report
  | reportInfo => ReportInfo
  | clusterReports => ClusterReports
  | cluster => Cluster
  | clusterSet => ClusterSet
  | ruleGroup => RuleGroup

def read : (k : Kind) → Read k.Carrier
  | ruleHit => RuleHit.read
  | ruleContent => RuleContent.read
  | ruleEntry => RuleEntry.read
  | reportMeta => ReportMeta.read
  | report => Report.read
  | reportInfo => ReportInfo.read
  | clusterReports => ClusterReports.read
  | cluster => Cluster.read
  | clusterSet => ClusterSet.read
  | ruleGroup => RuleGroup.read

def write : (k : Kind) → k.Carrier → Value
  | ruleHit => RuleHit.toJson
  | ruleContent => RuleContent.toJson
  | ruleEntry => RuleEntry.toJson
  | reportMeta => ReportMeta.toJson
  | report => Report.toJson
  | reportInfo => ReportInfo.toJson
  | clusterReports => ClusterReports.toJson
  | cluster => Cluster.toJson
  | clusterSet => ClusterSet.toJson
  | ruleGroup => RuleGroup.toJson

/-- The names of the members that a record is written with. -/
def names : (k : Kind) → k.Carrier → List String
  | ruleHit, _ => RuleHit.fieldNames
  | ruleContent, _ => RuleContent.fieldNames
  | ruleEntry, _ => RuleEntry.fieldNames
  | reportMeta, m => ReportMeta.fieldNames.filter fun name =>
      name ≠ "gathered_at" ∨ ReportMeta.gatheredAt m ≠ none
  | report, _ => Report.fieldNames
  | reportInfo, _ => ReportInfo.fieldNames
  | clusterReports, _ => ClusterReports.fieldNames
  | cluster, c => Cluster.fieldNames.filter fun name => name ≠ "status" ∨ Cluster.status c ≠ none
  | clusterSet, _ => ClusterSet.fieldNames
  | ruleGroup, _ => RuleGroup.fieldNames

/-- The opaque data that a record holds. -/
def opaques : (k : Kind) → k.Carrier → List Value
  | ruleHit, h => [RuleHit.details h]
  | ruleEntry, e => [RuleEntry.extraData e]
  | report, r => (Report.hits r).map RuleHit.details
  | clusterReports, r => (ClusterReports.reports r).map Prod.snd
  | _, _ => []

/-- One pass: a text is read and what was read is written again. -/
def pass (k : Kind) (bytes : List UInt8) : Option (List UInt8) :=
  (k.read.ofBytes? bytes).map fun x => (k.write x).encode

/-- So many passes one after another. -/
def passes (k : Kind) : Nat → List UInt8 → Option (List UInt8)
  | 0, bytes => some bytes
  | n + 1, bytes => (k.passes n bytes).bind k.pass

variable (k : Kind) {x : k.Carrier}

theorem faithful : Faithful k.read k.write Json.depthLimit := by
  cases k with
  | ruleHit => exact RuleHit.faithful _
  | ruleContent => exact RuleContent.faithful 125
  | ruleEntry => exact RuleEntry.faithful _
  | reportMeta => exact ReportMeta.faithful _
  | report => exact Report.faithful 125
  | reportInfo => exact ReportInfo.faithful _
  | clusterReports => exact ClusterReports.faithful 125
  | cluster => exact Cluster.faithful _
  | clusterSet => exact ClusterSet.faithful _
  | ruleGroup => exact RuleGroup.faithful 125

/-- Only opaque data can bring a double into a record. -/
theorem isExact_write (h : ∀ v ∈ k.opaques x, v.IsExact) : (k.write x).IsExact := by
  cases k with
  | ruleHit =>
      have hdetails : (RuleHit.details x).IsExact := h _ List.mem_cons_self
      simpa [write, RuleHit.toJson] using hdetails
  | ruleContent => simp [write, RuleContent.toJson]
  | ruleEntry =>
      have hextra : (RuleEntry.extraData x).IsExact := h _ List.mem_cons_self
      simpa [write, RuleEntry.toJson] using hextra
  | reportMeta => exact ReportMeta.isExact_toJson x
  | report =>
      have hdetails : ∀ hit ∈ Report.hits x, hit.details.IsExact := List.forall_mem_map.mp h
      simpa [write, Report.toJson, ReportMeta.isExact_toJson, RuleHit.toJson] using hdetails
  | reportInfo => simp [write, ReportInfo.toJson]
  | clusterReports =>
      have hreports : ∀ m ∈ ClusterReports.reports x, m.2.IsExact := List.forall_mem_map.mp h
      simpa [write, ClusterReports.toJson] using hreports
  | cluster => exact Cluster.isExact_toJson x
  | clusterSet =>
      have hnames : ∀ m ∈ (ClusterSet.displayNames x).map (fun m => (m.1, Value.string m.2)),
          m.2.IsExact := List.forall_mem_map.mpr fun m _ => .string m.2
      simpa [write, ClusterSet.toJson, Cluster.isExact_toJson] using hnames
  | ruleGroup => simp [write, RuleGroup.toJson]

theorem exists_write (x : k.Carrier) :
    ∃ members, k.write x = .object members ∧ members.map Prod.fst = k.names x := by
  cases k with
  | reportMeta =>
      refine ⟨_, rfl, ?_⟩
      cases hgathered : ReportMeta.gatheredAt x <;>
        simp [names, hgathered, ReportMeta.fieldNames]
  | cluster =>
      refine ⟨_, rfl, ?_⟩
      cases hstatus : Cluster.status x <;> simp [names, hstatus, Cluster.fieldNames]
  | _ => exact ⟨_, rfl, rfl⟩

section Passes

variable {bytes : List UInt8}

theorem ofBytes?_encode (hread : k.read.ofBytes? bytes = some x)
    (hexact : ∀ v ∈ k.opaques x, v.IsExact) : k.read.ofBytes? (k.write x).encode = some x := by
  obtain ⟨d, -, hd⟩ := Option.bind_eq_some_iff.mp hread
  have hwrite : (k.write x).IsExact := k.isExact_write hexact
  rw [Read.ofBytes?, Document.read?_encode hwrite]
  exact k.faithful hd hwrite

/-- The text after any number of passes still reads as the record that was there at first. -/
theorem passes_bind_ofBytes? (hread : k.read.ofBytes? bytes = some x)
    (hexact : ∀ v ∈ k.opaques x, v.IsExact) (n : Nat) :
    (k.passes n bytes).bind k.read.ofBytes? = some x := by
  -- The text changes in the first pass; what the induction keeps is the record.
  induction n with
  | zero => exact hread
  | succ n ih =>
      obtain ⟨before, hbefore, hx⟩ := Option.bind_eq_some_iff.mp ih
      have hafter : k.passes (n + 1) bytes = some (k.write x).encode := by
        rw [passes, hbefore, Option.bind_some, pass, hx, Option.map_some]
      rw [hafter, Option.bind_some]
      exact k.ofBytes?_encode hx hexact

end Passes

end Kind

/-- A record that was read from a text and whose opaque data is free of doubles is written as an
object with its fields' names, and that text reads as the same record, also after any number of
passes. -/
theorem written_reads_back (k : Kind) (x : k.Carrier) (bytes : List UInt8)
    (hread : k.read.ofBytes? bytes = some x) (hexact : ∀ v ∈ k.opaques x, v.IsExact) :
    k.read.ofBytes? (k.write x).encode = some x
      ∧ (∃ members, Document.read? (k.write x).encode = some (.object members)
          ∧ members.map Prod.fst = (k.names x).map some)
      ∧ ∀ n, (k.passes n bytes).bind k.read.ofBytes? = some x := by
  refine ⟨k.ofBytes?_encode hread hexact, ?_, k.passes_bind_ofBytes? hread hexact⟩
  obtain ⟨members, hwrite, hnames⟩ := k.exists_write x
  refine ⟨Value.memberDocuments members, ?_, ?_⟩
  · rw [Document.read?_encode (k.isExact_write hexact), hwrite, Value.document]
  · rw [Value.memberDocuments_eq_map, ← hnames, List.map_map, List.map_map]
    rfl

/-- A hit of which only its rule and some details were written. -/
def sparseHit : Value :=
  .object [("component", .string "c"), ("key", .string "\n"),
    ("details", .array [.int (-7), .null])]

/-- What is read from it. -/
def completedHit : RuleHit where
  component := "c"
  key := "\n"
  userVote := 0
  disabled := false
  disableFeedback := ""
  disabledAt := ""
  details := .array [.int (-7), .null]
  createdAt := ""

theorem ofBytes?_sparseHit :
    Kind.ruleHit.read.ofBytes? sparseHit.encode = some completedHit := by
  have hfields : Fields.ofDocument? RuleHit.fieldNames Json.depthLimit sparseHit.document
      = some ⟨126, _⟩ :=
    Fields.ofDocument?_document (by decide) (by decide) 126
  have hint : Value.Fits 125 (.int (-7)) := .int 125 (-7) (by decide)
  have hdetails : Read.opaqueData 126 (Value.array [.int (-7), .null]).document
      = some (.array [.int (-7), .null]) :=
    Json.value?_of_fits (.array (by simp [hint, Value.Fits.null])) (by simp)
  have hexact : sparseHit.IsExact := by simp [sparseHit]
  rw [Read.ofBytes?, Document.read?_encode hexact, Option.bind_eq_bind, Option.bind_some, Kind.read,
    RuleHit.read, hfields]
  simp [Fields.required, Fields.withDefault, List.lookup_cons, hdetails]
  rfl

def isNull : Value → Bool
  | .null => true
  | _ => false

namespace Kind

/-- A record of each kind, as an object or as an array, of which not much more than what has to be
there was written; opaque data are null. -/
def sparse : Kind → Value
  | ruleHit => .object [("component", .string "rule"), ("key", .string "KEY")]
  | ruleContent => .object [("rule_id", .string "rule"), ("error_key", .string "KEY")]
  | ruleEntry =>
    .array [.string "rule", .string "KEY", .string "", .string "", .string "", .string "why",
      .string "", .string "", .int 1, .int 2, .bool true, .string "", .string "", .bool false,
      .int (-1), .null, .array [.string "security"]]
  | reportMeta => .object [("gathered_at", .string "monday")]
  | report =>
    .object [("reports", .array [.object [("component", .string "rule"), ("key", .string "KEY")]])]
  | reportInfo => .array [.int 3, .string "tuesday", .string "wednesday"]
  | clusterReports =>
    .object [("clusters", .array [.string "c"]), ("reports", .object [("c", .null)])]
  | cluster => .object [("id", .string "c"), ("status", .string "Active")]
  | clusterSet =>
    .object [("clusters", .array [.object [("id", .string "c")]]),
      ("display_names", .object [("c", .string "front")])]
  | ruleGroup => .array [.string "Security", .string "all about it", .array [.string "security"]]

/-- Something is read from each of them. -/
theorem exists_ofBytes?_sparse (k : Kind) :
    ∃ x, k.read.ofBytes? k.sparse.encode = some x ∧ ∀ v ∈ k.opaques x, v.IsExact := by
  have hany : (k.read.ofBytes? k.sparse.encode).any (fun x => (k.opaques x).all isNull) = true := by
    cases k <;> decide +kernel
  obtain ⟨x, hread, hnull⟩ := (Option.any_eq_true _ _).mp hany
  refine ⟨x, hread, fun v hv => ?_⟩
  have hv := List.all_eq_true.mp hnull v hv
  cases v with
  | null => exact .null
  | _ => cases hv

end Kind

/-- The sparse hit reads back, and so does something of every other kind. -/
theorem sparse_hit_reads_back :
    (Kind.ruleHit.read.ofBytes? sparseHit.encode = some completedHit
      ∧ (∀ v ∈ Kind.ruleHit.opaques completedHit, v.IsExact)
      ∧ Kind.ruleHit.read.ofBytes? completedHit.toJson.encode = some completedHit
      ∧ (∃ members, Document.read? completedHit.toJson.encode = some (.object members)
          ∧ members.map Prod.fst = RuleHit.fieldNames.map some)
      ∧ ∀ n, (Kind.ruleHit.passes n sparseHit.encode).bind Kind.ruleHit.read.ofBytes?
          = some completedHit)
    ∧ ∀ k : Kind, ∃ x, k.read.ofBytes? k.sparse.encode = some x
      ∧ k.read.ofBytes? (k.write x).encode = some x := by
  have hexact : ∀ v ∈ Kind.ruleHit.opaques completedHit, v.IsExact := by
    simp [Kind.opaques, completedHit]
  refine ⟨⟨ofBytes?_sparseHit, hexact,
    written_reads_back .ruleHit completedHit sparseHit.encode ofBytes?_sparseHit hexact⟩, ?_⟩
  intro k
  obtain ⟨x, hread, hexact⟩ := k.exists_ofBytes?_sparse
  exact ⟨x, hread, (written_reads_back k x _ hread hexact).1⟩

end Records

end ReportGateway
