import ReportGateway.Proofs.Identifiers
import ReportGateway.Proofs.Rereading
import ReportGateway.Proofs.Templates
import ReportGateway.Proofs.Verdict

/-!
Lists of identifiers, and the clusters that a path lists. A list is read piece by piece, and there is
one identifier for each piece that is not empty (`parseList?_eq_some_iff`); written canonically it is
read as the same list (`parseList?_join`). The characters of such a list are nothing that a URL takes
notice of, so it goes to the results store as one segment, as it is written, whatever the segments
before it come to (`resource?_reports`). What is asked for therefore depends on the caller and on the
identifiers alone, and not on how they were spelled.
-/

namespace ReportGateway

namespace Uuid

variable {raw : String} {ids : List Uuid}

theorem intercalate_pieces (raw : String) : ",".intercalate (pieces raw) = raw := by
  rw [← String.toList_inj, String.toList_intercalate, pieces, List.map_map]
  have hsame : String.toList ∘ String.ofList = id := funext fun _ => String.toList_ofList
  rw [hsame, List.map_id]
  exact List.intercalate_splitOn ','

theorem comma_not_mem_of_mem_pieces {p : String} (h : p ∈ pieces raw) : ',' ∉ p.toList := by
  rw [pieces, Gateway.splitOn_eq_splitAtAll] at h
  obtain ⟨cs, hcs, rfl⟩ := List.mem_map.mp h
  rw [String.toList_ofList]
  intro hcomma
  exact absurd (Url.forall_mem_splitAtAll raw.toList cs hcs ',' hcomma).1 (by decide)

/-- There is one identifier for each piece that is not empty, in order. -/
theorem parseList?_eq_some_iff :
    parseList? raw = some ids ↔ List.Forall₂ Spells ((pieces raw).filter (· ≠ "")) ids := by
  simp only [parseList?, mapM_eq_some_iff, parse?_eq_some_iff]

theorem isSome_parseList?_iff :
    (parseList? raw).isSome = true ↔ ∀ p ∈ pieces raw, p ≠ "" → ∃ u, Spells p u := by
  rw [parseList?, isSome_mapM_iff]
  simp only [parse?_eq_some_iff, List.mem_filter, decide_eq_true_eq, and_imp]

theorem parseList?_eq_some_nil_iff : parseList? raw = some [] ↔ ∀ p ∈ pieces raw, p = "" := by
  rw [parseList?_eq_some_iff, List.forall₂_nil_right_iff, List.filter_eq_nil_iff]
  simp only [decide_eq_true_eq, not_not]

theorem parseList?_eq_none_iff :
    parseList? raw = none ↔ ∃ p ∈ pieces raw, p ≠ "" ∧ ∀ u, ¬Spells p u := by
  rw [← Option.not_isSome_iff_eq_none, isSome_parseList?_iff]
  push Not
  rfl

theorem text_ne_empty (u : Uuid) : u.text ≠ "" := by
  intro h
  have hlength := u.isCanonical_text.length
  rw [h] at hlength
  cases hlength

/-- The characters of canonical spellings and of lists of them. -/
def listChars : List Char := ",-0123456789abcdef".toList

theorem mem_listChars_of_text {u : Uuid} {c : Char} (h : c ∈ u.text.toList) :
    c ≠ ',' ∧ c ∈ listChars := by
  have hall : "0123456789abcdef".toList.all (fun c => c ≠ ',' ∧ c ∈ listChars) = true := by decide
  rcases u.isCanonical_text.lower c h with rfl | hc
  · decide
  · exact of_decide_eq_true (List.all_eq_true.mp hall c hc)

theorem mem_listChars_of_join {c : Char}
    (h : c ∈ (",".intercalate (ids.map text)).toList) : c ∈ listChars := by
  induction ids with
  | nil => cases h
  | cons u ids ih =>
      cases ids with
      | nil =>
          rw [List.map_singleton, String.intercalate_singleton] at h
          exact (mem_listChars_of_text h).2
      | cons u' ids =>
          have hcomma : ",".toList = [','] := rfl
          rw [List.map_cons, List.map_cons, String.intercalate_cons_cons, String.toList_append,
            String.toList_append, hcomma, List.append_assoc, List.mem_append, List.mem_append,
            List.mem_singleton] at h
          rcases h with h | rfl | h
          · exact (mem_listChars_of_text h).2
          · decide
          · exact ih h

/-- What is written canonically is read as the same list. -/
theorem parseList?_join (ids : List Uuid) :
    parseList? (",".intercalate (ids.map text)) = some ids := by
  rw [parseList?]
  by_cases hids : ids = []
  · rw [hids]
    rfl
  · have hpieces : pieces (",".intercalate (ids.map text)) = ids.map text := by
      have hcomma : ∀ cs ∈ (ids.map text).map String.toList, ',' ∉ cs := by
        intro cs hcs
        rw [List.map_map] at hcs
        obtain ⟨u, -, rfl⟩ := List.mem_map.mp hcs
        exact fun hmem => (mem_listChars_of_text hmem).1 rfl
      have hsplit := List.splitOn_intercalate ',' hcomma (by simpa using hids)
      have hsame : String.ofList ∘ String.toList = id := funext fun _ => String.ofList_toList
      rw [pieces, String.toList_intercalate, show ",".toList = [','] from rfl, hsplit, List.map_map,
        hsame, List.map_id]
    rw [hpieces, List.filter_eq_self.mpr ?_]
    · exact Json.mapM_map_of_forall fun u _ => u.parse?_text
    · intro p hp
      obtain ⟨u, -, rfl⟩ := List.mem_map.mp hp
      exact decide_eq_true u.text_ne_empty

theorem inert_of_mem_listChars {c : Char} (h : c ∈ listChars) :
    c.toNat < 0x80 ∧ Url.Percent.specialSegment c = false ∧ Url.isIgnored c = false ∧ c ≠ '.' := by
  have hall : listChars.all (fun c => c.toNat < 0x80 ∧ Url.Percent.specialSegment c = false ∧
      Url.isIgnored c = false ∧ c ≠ '.') = true := by decide
  exact of_decide_eq_true (List.all_eq_true.mp hall c h)

theorem plain_join (ids : List Uuid) : Url.Plain (",".intercalate (ids.map text)) := by
  have hinert := fun c (hc : c ∈ (",".intercalate (ids.map text)).toList) =>
    inert_of_mem_listChars (mem_listChars_of_join hc)
  refine ⟨fun hdot => ?_, fun hdots => ?_, fun c hc => (hinert c hc).2.2.1⟩
  · exact (hinert '.' (by rw [hdot]; decide)).2.2.2 rfl
  · exact (hinert '.' (by rw [hdots]; decide)).2.2.2 rfl

/-- A list is written into a path as it is. -/
theorem pushed_join (ids : List Uuid) :
    Url.pushed (",".intercalate (ids.map text)) = ",".intercalate (ids.map text) :=
  Url.encode_eq_self fun _ hc =>
    have hinert := inert_of_mem_listChars (mem_listChars_of_join hc)
    ⟨hinert.1, hinert.2.1⟩

end Uuid

namespace Url

theorem ne_root_of_word {path : List String} {s : String} (hs : IsWord s) : path ++ [s] ≠ [""] := by
  intro hroot
  obtain ⟨-, hempty⟩ := List.append_inj' (hroot.trans (List.nil_append _).symm) rfl
  exact hs.ne_empty (List.singleton_inj.mp hempty)

/-- What comes before a list of clusters, in the place where their reports are asked for, is up to the
base and the organization; the list follows as one segment. -/
theorem resource?_reports {base : Url} (hbase : base.IsBase) (org : String) :
    ∃ front, (Plain org → front = base.stem ++ ["organizations", pushed org, "clusters"]) ∧
      ∀ list, Plain list → base.resource? Aggregator.reportsTemplate [org, list]
        = some { base with path := .segments (front ++ [pushed list, "reports"]) } := by
  have horganizations : IsWord "organizations" := by decide
  have hclusters : IsWord "clusters" := by decide
  have hreports : IsWord "reports" := by decide
  cases hpath : base.path with
  | bare text =>
      have hsegments := hbase.hasSegments
      rw [hasSegments, hpath] at hsegments
      cases hsegments
  | segments path =>
      let before := ["organizations", org].foldl (pushSegment base.scheme) (withoutEmptyEnd path)
      have hfront : pushSegment base.scheme before "clusters"
          = (if before = [""] then [] else before) ++ ["clusters"] := by
        rw [pushSegment_front hbase.isHttp hclusters.plain, hclusters.encode_segment]
      refine ⟨pushSegment base.scheme before "clusters", fun horg => ?_, fun list hlist => ?_⟩
      · have hplain : ∀ s ∈ [org, "clusters"], Plain s := by simp [horg, hclusters.plain]
        have hpushed := foldl_pushSegment_of_first hbase.isHttp (withoutEmptyEnd path) horganizations
          hplain
        rw [stem, hpath]
        refine hpushed.trans ?_
        simp only [List.map_cons, List.map_nil, pushed, horganizations.encode_segment,
          hclusters.encode_segment]
      · have hne : pushSegment base.scheme before "clusters" ≠ [] := by
          rw [hfront]
          exact List.concat_ne_nil _ _
        have hroot : pushSegment base.scheme before "clusters" ≠ [""] := by
          rw [hfront]
          exact ne_root_of_word hclusters
        have hpushed := foldl_pushSegment_of_plain hbase.isHttp _ [list, "reports"] hne hroot
          (by simp [hlist, hreports.plain])
        rw [resource?, hpath]
        simp only [List.map_cons, List.map_nil, hreports.encode_segment] at hpushed
        exact congrArg (fun segments => some { base with path := .segments segments }) hpushed

end Url

namespace Http.Client

theorem Leads.exists_cons {left : Nat} {r : Request} {made : Journal} {outcome : Outcome}
    (h : Leads left r made outcome) : ∃ reply rest, made = (r, reply) :: rest := by
  cases h <;> exact ⟨_, _, rfl⟩

/-- What is sent first, if anything is. -/
theorem Sends.head?_eq {r : Request} {made : Journal} {outcome : Outcome}
    (h : Sends r made outcome) :
    made.head?.map Prod.fst = if IsWritable (authorize r) then some (authorize r) else none := by
  cases h with
  | unwritable h =>
      rw [if_neg h]
      rfl
  | led h hled =>
      obtain ⟨reply, rest, rfl⟩ := hled.exists_cons
      rw [if_pos h]
      rfl

theorem head?_sent (v : Services) (r : Request) :
    (sent v r []).2.head?.map Prod.fst
      = if IsWritable (authorize r) then some (authorize r) else none := by
  obtain ⟨made, hsends, hmade, -⟩ := sends_send v r []
  rw [hmade, List.nil_append]
  exact hsends.head?_eq

end Http.Client

namespace Gateway

open Content (Directory)
open Http.Client (IsWritable authorize sent)
open Uuid (IsCanonical Spells parse? parseList?)

/-- The request for the reports of clusters, for what comes before their list in the path. -/
def listRequest (base : Url) (front : List String) (ids : List Uuid) : Http.Request :=
  .get { base with path := .segments (front ++ [",".intercalate (ids.map Uuid.text), "reports"]) }

section Lists

variable {g : Gateway} {r : Inbound} {caller : Caller} {found : List (String × String)}
  {raw : String} {ids : List Uuid}

theorem clusterNames_of_some (hids : parseList? raw = some ids) (hne : ids ≠ []) :
    clusterNames raw = .ok (ids.map Uuid.text) := by
  rw [clusterNames, hids]
  cases ids with
  | nil => exact absurd rfl hne
  | cons id ids => rfl

variable (v : Services) (content : Content.Lookup) (groups : Content.Groups) (id : String)

/-- A list that is read is asked for once, by the identifiers in it. -/
theorem journal_of_list {url : Url} (hasked : Asked g r caller .reportsOfList found)
    (hraw : capture found = .ok raw) (hids : parseList? raw = some ids) (hne : ids ≠ [])
    (hurl : g.aggregator.resource? Aggregator.reportsTemplate
      [caller.org, ",".intercalate (ids.map Uuid.text)] = some url) :
    (served g v content groups id r).2 = (sent v (.get url) []).2 := by
  have hask := (Question.reports caller.org (ids.map Uuid.text)).among_ask hurl v content []
  rw [served_eq_shown groups id hasked, answer, ofCaptures, hraw]
  show ((ofHandler (reportsOfList g caller raw)).among v content []).2 = _
  rw [ofHandler, Action.among_mapError, reportsOfList, clusterNames_of_some hids hne]
  show ((Question.ask g.aggregator (.reports caller.org (ids.map Uuid.text)) >>= fun found =>
    pure (Failure.jsonResponse 200 found.toJson)).among v content []).2 = _
  rw [Action.among_bind, hask]
  -- Whatever is read of the answer, nobody else is asked.
  cases Aggregator.interpret _ _ <;> rfl

/-- What is refused before anybody is asked. -/
theorem served_of_refused_list {text : String} (hasked : Asked g r caller .reportsOfList found)
    (hraw : capture found = .ok raw) (hnames : clusterNames raw = .error (.badRequest text)) :
    served g v content groups id r = (told g id r 400 "BAD_REQUEST" text, []) := by
  have hanswer : (answer g groups caller .reportsOfList found (seen g caller r)).among v content []
      = (.error (.failure (.badRequest text)), []) := by
    rw [answer, ofCaptures, hraw]
    show (ofHandler (reportsOfList g caller raw)).among v content [] = _
    rw [ofHandler, Action.among_mapError, reportsOfList, hnames]
    rfl
  rw [served_eq_shown groups id hasked, hanswer]
  rfl

end Lists

/-- A list of identifiers is read when each piece between its commas that is not empty spells one, and
then has one canonical text for each of these pieces, in order; pieces have one text exactly when they
spell the same bits. What was read is read again from its canonical texts. A client who asks for the
reports of listed clusters has the results store asked for the canonical texts, as one segment that
follows what the base and the organization come to (in the form of the path that the store describes,
if the name of the organization is plain); lists of the same identifiers lead to the same exchanges. If
nothing is listed, or something that is no identifier, the request is bad and nobody is asked. -/
theorem lists_are_read_canonically :
    (∀ raw, ",".intercalate (Uuid.pieces raw) = raw ∧ ∀ p ∈ Uuid.pieces raw, ',' ∉ p.toList) ∧
    (∀ raw, (parseList? raw).isSome = true ↔ ∀ p ∈ Uuid.pieces raw, p ≠ "" → ∃ u, Spells p u) ∧
    (∀ raw ids, parseList? raw = some ids ↔
      List.Forall₂ Spells ((Uuid.pieces raw).filter (· ≠ "")) ids) ∧
    (∀ u : Uuid, IsCanonical u.text u) ∧
    (∀ p p' u u', Spells p u → Spells p' u' →
      ((parse? p).map Uuid.text = (parse? p').map Uuid.text ↔ u.bits = u'.bits)) ∧
    (∀ ids : List Uuid, parseList? (",".intercalate (ids.map Uuid.text)) = some ids) ∧
    (∀ u : Uuid, parse? u.text = some u) ∧
    ∀ g : Gateway, Configured g → ∀ caller : Caller, ∃ front,
      (Url.Plain caller.org →
        front = g.aggregator.stem ++ ["organizations", Url.pushed caller.org, "clusters"]) ∧
      ∀ r found raw v content groups id, Asked g r caller .reportsOfList found →
        capture found = .ok raw →
        (∀ ids, parseList? raw = some ids → ids ≠ [] →
          (served g v content groups id r).2 = (sent v (listRequest g.aggregator front ids) []).2 ∧
          (served g v content groups id r).2.head?.map Prod.fst =
            if IsWritable (authorize (listRequest g.aggregator front ids)) then
              some (authorize (listRequest g.aggregator front ids))
            else none) ∧
        ((∀ p ∈ Uuid.pieces raw, p = "") → served g v content groups id r
          = (told g id r 400 "BAD_REQUEST" "cluster list is empty", [])) ∧
        ((∃ p ∈ Uuid.pieces raw, p ≠ "" ∧ ∀ u, ¬Spells p u) → served g v content groups id r
          = (told g id r 400 "BAD_REQUEST" ("invalid cluster list " ++ Text.quote raw), [])) := by
  refine ⟨fun raw => ⟨Uuid.intercalate_pieces raw, fun p => Uuid.comma_not_mem_of_mem_pieces⟩,
    fun raw => Uuid.isSome_parseList?_iff, fun raw ids => Uuid.parseList?_eq_some_iff,
    Uuid.isCanonical_text, ?_, Uuid.parseList?_join, Uuid.parse?_text, ?_⟩
  · intro p p' u u' h h'
    rw [Uuid.parse?_eq_some_iff.mpr h, Uuid.parse?_eq_some_iff.mpr h', Option.map_some,
      Option.map_some, Option.some.injEq]
    constructor
    · intro htext
      rw [Uuid.text_injective htext]
    · intro hbits
      obtain rfl : u = u' := congrArg Uuid.mk hbits
      rfl
  · intro g hg caller
    obtain ⟨front, hfront, hreports⟩ := Url.resource?_reports hg.aggregator caller.org
    refine ⟨front, hfront, fun r found raw v content groups id hasked hraw => ⟨?_, ?_, ?_⟩⟩
    · intro ids hids hne
      have hurl := hreports _ (Uuid.plain_join ids)
      rw [Uuid.pushed_join] at hurl
      have hjournal := journal_of_list v content groups id hasked hraw hids hne hurl
      rw [hjournal]
      exact ⟨rfl, Http.Client.head?_sent v _⟩
    · intro hempty
      refine served_of_refused_list v content groups id hasked hraw ?_
      rw [clusterNames, Uuid.parseList?_eq_some_nil_iff.mpr hempty]
    · intro hbad
      refine served_of_refused_list v content groups id hasked hraw ?_
      rw [clusterNames, Uuid.parseList?_eq_none_iff.mpr hbad]

section Spellings

/-- A user of organization `7` asks for the reports of listed clusters. -/
def asksReports (list : String) : Inbound :=
  userAsks "GET" ("/clusters/" ++ list ++ "/reports") .empty

theorem configured_sample : Configured sample :=
  ⟨⟨rfl, .inl rfl⟩, ⟨rfl, .inl rfl⟩, by rintro _ ⟨⟩, rfl⟩

/-- An identifier, spelled in braces, nothing, and the identifier again without hyphens. -/
def mixedSpellings : String :=
  "%7B34c3ecc5-624a-49a5-bab8-4fdc5e51a266%7D,,34C3ECC5624A49A5BAB84FDC5E51A266"

/-- Such a list is asked for canonically, and a list of nothing is refused. -/
theorem lists_are_read_canonically_of_spellings :
    Configured sample ∧
    ((served sample refusal Directory.empty.lookup .none "1"
        (asksReports mixedSpellings)).2.head?.map fun exchange => exchange.1.url.path)
      = some (.segments ["organizations", "7", "clusters",
          "34c3ecc5-624a-49a5-bab8-4fdc5e51a266,34c3ecc5-624a-49a5-bab8-4fdc5e51a266", "reports"]) ∧
    served sample refusal Directory.empty.lookup .none "1" (asksReports ",,")
      = (told sample "1" (asksReports ",,") 400 "BAD_REQUEST" "cluster list is empty", []) := by
  have hasked : Asked sample (asksReports mixedSpellings) ⟨"7", "", "u"⟩ .reportsOfList
      [("cluster", mixedSpellings)] := by decide +kernel
  have hnothing : Asked sample (asksReports ",,") ⟨"7", "", "u"⟩ .reportsOfList
      [("cluster", ",,")] := by decide +kernel
  let id : Uuid := ⟨0x34c3ecc5624a49a5bab84fdc5e51a266⟩
  let raw := "\x7b34c3ecc5-624a-49a5-bab8-4fdc5e51a266\x7d,,34C3ECC5624A49A5BAB84FDC5E51A266"
  have hraw : capture [("cluster", mixedSpellings)] = .ok raw := by rfl
  have hids : parseList? raw = some [id, id] := by decide +kernel
  obtain ⟨-, -, -, -, -, -, -, hlists⟩ := lists_are_read_canonically
  obtain ⟨front, hfront, hanswers⟩ := hlists sample configured_sample ⟨"7", "", "u"⟩
  obtain ⟨hread, -, -⟩ := hanswers _ _ _ refusal Directory.empty.lookup .none "1" hasked hraw
  obtain ⟨-, hrefused, -⟩ := hanswers _ _ ",," refusal Directory.empty.lookup .none "1" hnothing rfl
  obtain ⟨-, hfirst⟩ := hread [id, id] hids (List.cons_ne_nil _ _)
  have hplace : front = ["organizations", "7", "clusters"] := by
    rw [hfront (by decide)]
    decide +kernel
  have hwritable : IsWritable (authorize (listRequest sample.aggregator
      ["organizations", "7", "clusters"] [id, id])) := by decide +kernel
  have hpath : (authorize (listRequest sample.aggregator ["organizations", "7", "clusters"]
      [id, id])).url.path = .segments ["organizations", "7", "clusters",
        "34c3ecc5-624a-49a5-bab8-4fdc5e51a266,34c3ecc5-624a-49a5-bab8-4fdc5e51a266", "reports"] := by
    decide +kernel
  rw [hplace, if_pos hwritable] at hfirst
  refine ⟨configured_sample, ?_, hrefused (by decide +kernel)⟩
  obtain ⟨exchange, hexchange, hrequest⟩ := Option.map_eq_some_iff.mp hfirst
  rw [hexchange, Option.map_some, hrequest, hpath]

/-- A gateway whose results store has a name that no request can be addressed to. -/
def unaddressable : Gateway :=
  { sample with
    aggregator := oneWord "a\x7bb"
    roster := { sample.roster with aggregator := oneWord "a\x7bb" } }

/-- The mark of an identifier may be written in capitals, and a list that is read is asked for only if
the results store can be addressed. -/
theorem capital_mark_is_read_and_unaddressable_is_not_asked :
    (¬∀ raw, (parseList? raw).isSome = true ↔ ∀ p ∈ Uuid.pieces raw, p ≠ "" →
      ∃ u, Uuid.Spelled (· = "urn:uuid:".toList) p.toList u) ∧
    Configured unaddressable ∧ parseList? "34c3ecc5624a49a5bab84fdc5e51a266" ≠ none ∧
    (served unaddressable refusal Directory.empty.lookup .none "1"
      (asksReports "34c3ecc5624a49a5bab84fdc5e51a266")).2 = [] := by
  refine ⟨fun hall => ?_, ⟨⟨rfl, .inl rfl⟩, ⟨rfl, .inl rfl⟩, by rintro _ ⟨⟩, rfl⟩,
    by decide +kernel, ?_⟩
  · let urn := "URN:UUID:34c3ecc5-624a-49a5-bab8-4fdc5e51a266"
    have hpiece : urn ∈ Uuid.pieces urn := by decide +kernel
    obtain ⟨u, hu⟩ := (hall urn).mp (by decide +kernel) urn hpiece (by decide)
    obtain ⟨mark, rest, rfl, hurn⟩ := hu.exists_mark (by decide)
    have hmark := congrArg (List.take 9) hurn
    rw [List.take_left' (by decide)] at hmark
    exact absurd hmark (by decide)
  · let ids : List Uuid := [⟨0x34c3ecc5624a49a5bab84fdc5e51a266⟩]
    have hasked : Asked unaddressable (asksReports "34c3ecc5624a49a5bab84fdc5e51a266")
        ⟨"7", "", "u"⟩ .reportsOfList [("cluster", "34c3ecc5624a49a5bab84fdc5e51a266")] := by
      decide +kernel
    have hids : parseList? "34c3ecc5624a49a5bab84fdc5e51a266" = some ids := by decide +kernel
    have hbase : unaddressable.aggregator.IsBase := ⟨rfl, .inl rfl⟩
    obtain ⟨front, hfront, hreports⟩ := Url.resource?_reports hbase "7"
    have hunwritable : ¬IsWritable (authorize (listRequest unaddressable.aggregator
        (unaddressable.aggregator.stem ++ ["organizations", Url.pushed "7", "clusters"]) ids)) := by
      decide +kernel
    have hurl := hreports _ (Uuid.plain_join ids)
    rw [Uuid.pushed_join, hfront (by decide)] at hurl
    have hfirst := Http.Client.head?_sent refusal (listRequest unaddressable.aggregator
      (unaddressable.aggregator.stem ++ ["organizations", Url.pushed "7", "clusters"]) ids)
    rw [if_neg hunwritable, Option.map_eq_none_iff, List.head?_eq_none_iff] at hfirst
    exact (journal_of_list refusal Directory.empty.lookup .none "1" hasked rfl hids
      (List.cons_ne_nil _ _) hurl).trans hfirst

end Spellings

end Gateway

end ReportGateway
