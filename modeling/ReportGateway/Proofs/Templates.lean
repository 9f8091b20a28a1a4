import ReportGateway.Membership
import ReportGateway.Proofs.Bases

/-!
What the parameters of a template come to in a URL. A template that begins with a word pushes segments
that `Carries` says to hold its parts one by one: a word stands as it is, and a segment for an open
part decodes to the bytes of its parameter. Nothing in a parameter divides or ends its segment, and an
empty one has an empty segment, so the segments tell the parameters (`Carries.params_unique`). The
segments follow those of the base, of which an empty one at the end is dropped (`stem_eq_named`); only
a base path that begins with two slashes is not kept so. Parameters that are not plain are left out:
dots name no segment, and tabs and line breaks are lost.
-/

namespace ReportGateway.Url

open Gateway (pieces pieces_empty pieces_of_not_mem)

section Filling

/-- The number of open parts. -/
def Template.holes : Template → Nat
  | [] => 0
  | .fixed _ :: t => holes t
  | .hole _ :: t => holes t + 1

/-- Parameters fill a template if there are as many as open parts. -/
theorem isSome_fill?_iff (t : Template) (params : List String) :
    (t.fill? params).isSome = true ↔ params.length = t.holes := by
  induction t generalizing params with
  | nil => cases params <;> simp [Template.fill?, Template.holes]
  | cons part t ih =>
      cases part with
      | fixed s =>
          rw [Template.fill?, Template.holes, ← ih params]
          cases Template.fill? t params <;> rfl
      | hole name =>
          cases params with
          | nil => simp [Template.fill?, Template.holes]
          | cons p params =>
              rw [Template.fill?, Template.holes, List.length_cons, Nat.add_right_cancel_iff,
                ← ih params]
              cases Template.fill? t params <;> rfl

/-- Segments that hold the parts of a template with parameters: a fixed part is written as it is, and
the segment for an open part stands for the bytes of its parameter and has no delimiter in it. -/
inductive Carries : Template → List String → List String → Prop
  | nil : Carries [] [] []
  | fixed {s : String} {t : Template} {params segments : List String}
      (hrest : Carries t params segments) : Carries (.fixed s :: t) params (s :: segments)
  | hole {name p x : String} {t : Template} {params segments : List String}
      (hclosed : ∀ d ∈ delimiters, d ∉ x.toList) (hbytes : Percent.decode x = Utf8.encode p)
      (hrest : Carries t params segments) :
      Carries (.hole name :: t) (p :: params) (x :: segments)

/-- The segments tell the parameters. -/
theorem Carries.params_unique {t : Template} {params params' segments : List String}
    (h : Carries t params segments) (h' : Carries t params' segments) : params = params' := by
  induction h generalizing params' with
  | nil =>
      cases h'
      rfl
  | fixed hrest ih =>
      cases h' with
      | fixed hrest' => exact ih hrest'
  | hole hclosed hbytes hrest ih =>
      cases h' with
      | hole hclosed' hbytes' hrest' => rw [ih hrest', Utf8.encode_injective (hbytes.symm.trans hbytes')]

/-- A fixed part is a word. -/
def Part.isWord : Part → Bool
  | .fixed s => decide (IsWord s)
  | .hole _ => true

/-- A template that begins with a word, and whose other fixed parts are words too. -/
def Template.Worded : Template → Prop
  | .fixed s :: t => IsWord s ∧ ∀ s', .fixed s' ∈ t → IsWord s'
  | _ => False

theorem Template.Worded.isWord {t : Template} (ht : t.Worded) : ∀ s, .fixed s ∈ t → IsWord s := by
  cases t with
  | nil => exact ht.elim
  | cons part t =>
      cases part with
      | hole name => exact ht.elim
      | fixed first =>
          intro s hs
          rcases List.mem_cons.mp hs with hs | hs
          · cases hs
            exact ht.1
          · exact ht.2 s hs

theorem all_isWord_iff (t : Template) :
    t.all Part.isWord = true ↔ ∀ s, .fixed s ∈ t → IsWord s := by
  rw [List.all_eq_true]
  refine ⟨fun h s hs => of_decide_eq_true (h (.fixed s) hs), fun h part hpart => ?_⟩
  cases part with
  | fixed s => exact decide_eq_true (h s hpart)
  | hole name => rfl

instance : DecidablePred Template.Worded
  | [] => isFalse id
  | .hole _ :: _ => isFalse id
  | .fixed s :: t => decidable_of_iff (IsWord s ∧ t.all Part.isWord = true)
      (and_congr_right' (all_isWord_iff t))

/-- A text as it is pushed. -/
def pushed (s : String) : String := Percent.encode Percent.specialSegment s.toList

theorem escaped_of_delimiter {d : Char} (hd : d ∈ delimiters) :
    Percent.specialSegment d = true := by
  rcases delimiter_cases hd with rfl | rfl | rfl | rfl <;> decide

theorem delimiter_not_mem_pushed (s : String) : ∀ d ∈ delimiters, d ∉ (pushed s).toList :=
  fun _ hd => delimiter_not_mem_encode hd fun _ => escaped_of_delimiter hd

/-- What fills a template follows it part by part. -/
theorem fill?_induction {M : Template → List String → List String → Prop} (hnil : M [] [] [])
    (hfixed : ∀ s t params texts, M t params texts → M (.fixed s :: t) params (s :: texts))
    (hhole : ∀ name p t params texts, M t params texts →
      M (.hole name :: t) (p :: params) (p :: texts))
    {t : Template} {params texts : List String} (hfill : t.fill? params = some texts) :
    M t params texts := by
  induction t generalizing params texts with
  | nil =>
      cases params with
      | nil =>
          cases hfill
          exact hnil
      | cons p params => cases hfill
  | cons part t ih =>
      cases part with
      | fixed s =>
          rw [Template.fill?] at hfill
          obtain ⟨rest, hrest, hpure⟩ := Option.bind_eq_some_iff.mp hfill
          cases hpure
          exact hfixed s t params rest (ih hrest)
      | hole name =>
          cases params with
          | nil => cases hfill
          | cons p params =>
              rw [Template.fill?] at hfill
              obtain ⟨rest, hrest, hpure⟩ := Option.bind_eq_some_iff.mp hfill
              cases hpure
              exact hhole name p t params rest (ih hrest)

/-- Pushed under a path, what fills a template of words holds the parts of the template. -/
theorem carries_of_fill? {t : Template} {params texts : List String}
    (hfill : t.fill? params = some texts) (hwords : ∀ s, .fixed s ∈ t → IsWord s) :
    Carries t params (texts.map pushed) := by
  refine fill?_induction (M := fun t params texts =>
    (∀ s, .fixed s ∈ t → IsWord s) → Carries t params (texts.map pushed)) ?_ ?_ ?_ hfill hwords
  · exact fun _ => .nil
  · intro s t params texts ih hwords
    rw [List.map_cons, pushed, (hwords s List.mem_cons_self).encode_segment]
    exact .fixed (ih fun s' hs' => hwords s' (List.mem_cons_of_mem _ hs'))
  · intro name p t params texts ih hwords
    exact .hole (delimiter_not_mem_pushed p) (decode_plainSegment p)
      (ih fun s hs => hwords s (List.mem_cons_of_mem _ hs))

/-- What fills a template is a fixed part of it or a parameter. -/
theorem mem_of_fill? {t : Template} {params texts : List String}
    (hfill : t.fill? params = some texts) {s : String} (hs : s ∈ texts) :
    .fixed s ∈ t ∨ s ∈ params := by
  refine fill?_induction (M := fun t params texts =>
    s ∈ texts → .fixed s ∈ t ∨ s ∈ params) ?_ ?_ ?_ hfill hs
  · exact fun hs => absurd hs List.not_mem_nil
  · intro s' t params texts ih hs
    rcases List.mem_cons.mp hs with rfl | hs
    · exact Or.inl List.mem_cons_self
    · exact (ih hs).imp_left (List.mem_cons_of_mem _)
  · intro name p t params texts ih hs
    rcases List.mem_cons.mp hs with rfl | hs
    · exact Or.inr List.mem_cons_self
    · exact (ih hs).imp (List.mem_cons_of_mem _) (List.mem_cons_of_mem _)

end Filling

section Shown

/-- The segments of a path as its text shows them. -/
def Path.shown (p : Path) : List String := (pieces p.text).drop 1

theorem shown_segments {path : List String} (hslash : ∀ s ∈ path, '/' ∉ s.toList) :
    (Path.segments path).shown = path := by
  have hpieces := pieces_append_text "" path
  rw [String.empty_append, pieces_empty] at hpieces
  have hsame : path.flatMap pieces = path.flatMap ([·]) :=
    List.flatMap_congr fun s hs => pieces_of_not_mem (hslash s hs)
  rw [Path.shown, hpieces, hsame, List.flatMap_singleton']
  rfl

/-- The text of a path begins with two slashes. -/
def Path.OpensTwice (p : Path) : Prop := ['/', '/'] <+: p.text.toList

instance (p : Path) : Decidable p.OpensTwice :=
  inferInstanceAs (Decidable (['/', '/'] <+: p.text.toList))

theorem opensTwice_cons_empty {path : List String} (hne : path ≠ []) :
    (Path.segments ("" :: path)).OpensTwice := by
  obtain ⟨s, path, rfl⟩ := List.exists_cons_of_ne_nil hne
  rw [Path.OpensTwice, Path.text_cons, Path.text_cons]
  simp only [String.toList_append]
  exact ⟨s.toList ++ (Path.segments path).text.toList, by simp⟩

variable {base : Url} {path : List String}

/-- Unless it begins with two slashes, a base path is kept but for an empty segment at its end. -/
theorem stem_eq_named (hpath : base.path = .segments path) (honce : ¬base.path.OpensTwice) :
    base.stem = base.named := by
  cases path with
  | nil =>
      rw [stem, named, hpath]
      rfl
  | cons s path =>
      by_cases hs : s = ""
      · have hnil : path = [] := by
          by_contra hne
          rw [hpath, hs] at honce
          exact honce (opensTwice_cons_empty hne)
        rw [stem, named, hpath, hs, hnil]
        rfl
      · have hroot : s :: path ≠ [""] := by simp [hs]
        -- Only two slashes at the start would leave a single empty segment.
        have hleft : withoutEmptyEnd (s :: path) ≠ [""] := by
          rw [withoutEmptyEnd]
          split
          · rename_i hend
            intro hsame
            cases path with
            | nil => exact hs (by simpa using hend.2)
            | cons t path =>
                rw [List.dropLast_cons_of_ne_nil (List.cons_ne_nil t path)] at hsame
                exact hs (List.cons.inj hsame).1
          · exact hroot
        rw [stem, named, hpath]
        dsimp only
        rw [if_neg hleft, withoutEmptyEnd]
        simp [hs]

end Shown

section Naming

variable {base : Url} {path : List String} {t : Template} {params : List String}

/-- Texts of which the first is a word, and all of them plain, follow the stem of the path they are
pushed under. -/
theorem foldl_pushSegment_of_first {scheme : String} (hhttp : scheme = "http" ∨ scheme = "https")
    (path : List String) {first : String} (hfirst : IsWord first) {texts : List String}
    (hplain : ∀ s ∈ texts, Plain s) :
    (first :: texts).foldl (pushSegment scheme) path
      = (if path = [""] then [] else path) ++ (first :: texts).map pushed := by
  rw [List.foldl_cons, pushSegment_front hhttp hfirst.plain,
    foldl_pushSegment_of_plain hhttp _ texts (by simp) ?_ hplain, List.append_assoc]
  · rfl
  · intro hroot
    obtain ⟨-, hempty⟩ := List.append_inj' (hroot.trans (List.nil_append _).symm) rfl
    rw [hfirst.encode_segment] at hempty
    exact hfirst.ne_empty (List.singleton_inj.mp hempty)

theorem resource?_of_fill? (hhttp : base.scheme = "http" ∨ base.scheme = "https")
    (hpath : base.path = .segments path) (ht : t.Worded) (hplain : ∀ p ∈ params, Plain p)
    {texts : List String} (hfill : t.fill? params = some texts) :
    base.resource? t params = some { base with path := .segments (base.stem ++ texts.map pushed) } := by
  match t, ht with
  | .fixed first :: t, ⟨hfirst, hwords⟩ =>
      have hfilled := hfill
      rw [Template.fill?] at hfill
      obtain ⟨more, hmore, hpure⟩ := Option.bind_eq_some_iff.mp hfill
      cases hpure
      have hall : ∀ s ∈ more, Plain s := fun s hs =>
        (mem_of_fill? hmore hs).elim (fun hfixed => (hwords s hfixed).plain) (hplain s)
      rw [resource?, stem, hpath]
      dsimp only
      rw [hfilled, Option.bind_eq_bind, Option.bind_some,
        foldl_pushSegment_of_first hhttp _ hfirst hall]
      rfl

theorem slash_not_mem_named (hpath : base.path = .segments path)
    (hslash : ∀ s ∈ path, '/' ∉ s.toList) : ∀ s ∈ base.named, '/' ∉ s.toList := by
  rw [named, hpath]
  dsimp only
  split
  · exact fun s hs => hslash s ((List.dropLast_sublist path).mem hs)
  · exact hslash

/-- How a resource is placed: the URL is that of the base but for the path, and the path shows the
segments of the base, without an empty one at its end, and then those that carry the template. -/
structure Placed (base : Url) (t : Template) (params : List String) (url : Url) : Prop where
  rest : url = { base with path := url.path }
  path : ∃ segments, Carries t params segments ∧ url.path.shown = base.named ++ segments

theorem placed_of_resource? (hhttp : base.scheme = "http" ∨ base.scheme = "https")
    (hpath : base.path = .segments path) (hslash : ∀ s ∈ path, '/' ∉ s.toList)
    (honce : ¬base.path.OpensTwice) (ht : t.Worded) (hplain : ∀ p ∈ params, Plain p) {url : Url}
    (hurl : base.resource? t params = some url) : Placed base t params url := by
  have hsome : (t.fill? params).isSome = true := by
    rw [resource?, hpath] at hurl
    dsimp only at hurl
    obtain ⟨texts, hfill, -⟩ := Option.bind_eq_some_iff.mp hurl
    rw [hfill]
    rfl
  obtain ⟨texts, hfill⟩ := Option.isSome_iff_exists.mp hsome
  rw [resource?_of_fill? hhttp hpath ht hplain hfill, stem_eq_named hpath honce] at hurl
  cases hurl
  refine ⟨rfl, texts.map pushed, carries_of_fill? hfill ht.isWord, shown_segments fun s hs => ?_⟩
  rcases List.mem_append.mp hs with hs | hs
  · exact slash_not_mem_named hpath hslash s hs
  · obtain ⟨x, -, rfl⟩ := List.mem_map.mp hs
    exact delimiter_not_mem_pushed x '/' (by decide)

/-- What is kept of a base path, by the segments that the path shows. -/
theorem named_eq_shown (hpath : base.path = .segments path)
    (hslash : ∀ s ∈ path, '/' ∉ s.toList) :
    base.named = if base.path.shown.getLast? = some "" then base.path.shown.dropLast
      else base.path.shown := by
  rw [named, hpath, shown_segments hslash]

/-- Resources under one base that are written alike have the same path. -/
theorem path_text_of_text {url url' : Url} (h : url = { base with path := url.path })
    (h' : url' = { base with path := url'.path }) (htext : url.text = url'.text) :
    url.path.text = url'.path.text := by
  rw [h, h', text, text, target, target] at htext
  dsimp only at htext
  simpa [credentialsText, hasCredentials, authority, String.append_assoc, String.append_right_inj,
    String.append_left_inj] using htext

/-- The templates for what the gateway asks of its services. -/
def endpointTemplates : List Template :=
  [Aggregator.reportTemplate, Aggregator.infoTemplate, Aggregator.ruleTemplate,
    Aggregator.listingTemplate, Aggregator.reportsTemplate, Aggregator.payloadTemplate,
    Membership.template, [.fixed "content"], [.fixed "groups"]]

theorem worded_of_mem_endpointTemplates : ∀ t ∈ endpointTemplates, t.Worded := by decide

theorem resource?_isSome_iff (hpath : base.path = .segments path) :
    (base.resource? t params).isSome = true ↔ params.length = t.holes := by
  rw [resource?, hpath, ← isSome_fill?_iff]
  dsimp only
  cases t.fill? params <;> rfl

/-- Under a base of the web whose path does not begin with two slashes, a template of the gateway has
a resource for plain parameters exactly when there is one for each open part. The resource is placed
as the template says, and no other plain parameters have one that is written the same. -/
theorem resource_names_parameters {text : String} (hbase : parse text = .ok base)
    (hhttp : base.scheme = "http" ∨ base.scheme = "https") (honce : ¬base.path.OpensTwice)
    (ht : t ∈ endpointTemplates) (hplain : ∀ p ∈ params, Plain p) :
    ((base.resource? t params).isSome = true ↔ params.length = t.holes) ∧
      (base.named = if base.path.shown.getLast? = some "" then base.path.shown.dropLast
        else base.path.shown) ∧
      ∀ url, base.resource? t params = some url → Placed base t params url ∧
        ∀ params' url', (∀ p ∈ params', Plain p) → base.resource? t params' = some url' →
          url.text = url'.text → params = params' := by
  obtain ⟨path, hpath, hsegmented, -⟩ := path_of_parse hbase hhttp
  have hslash := hsegmented.slash_not_mem
  have hplaced {params : List String} (hplain : ∀ p ∈ params, Plain p) {url : Url}
      (hurl : base.resource? t params = some url) : Placed base t params url :=
    placed_of_resource? hhttp hpath hslash honce (worded_of_mem_endpointTemplates t ht) hplain hurl
  refine ⟨resource?_isSome_iff hpath, named_eq_shown hpath hslash, fun url hurl =>
    ⟨hplaced hplain hurl, fun params' url' hplain' hurl' htext => ?_⟩⟩
  obtain ⟨hrest, segments, hcarries, hshown⟩ := hplaced hplain hurl
  obtain ⟨hrest', segments', hcarries', hshown'⟩ := hplaced hplain' hurl'
  have hsame : base.named ++ segments = base.named ++ segments' := by
    rw [← hshown, ← hshown', Path.shown, Path.shown, path_text_of_text hrest hrest' htext]
  rw [List.append_cancel_left hsame] at hcarries
  exact hcarries.params_unique hcarries'

/-- Delimiters, a per cent sign, nothing and a letter outside ASCII each stay in a segment. -/
theorem report_of_delimiters_names_parameters :
    ∃ base url, parse "http://[::1]:8080/api/v1/?a#b" = .ok base ∧
      base.resource? Aggregator.reportTemplate ["4/2?#%", "", "ü\\"] = some url ∧
      url.text = "http://[::1]:8080/api/v1/organizations/4%2F2%3F%23%25/clusters//users/%C3%BC%5C/"
        ++ "report?a#b" ∧
      Placed base Aggregator.reportTemplate ["4/2?#%", "", "ü\\"] url := by
  have hparts : (parse "http://[::1]:8080/api/v1/?a#b").toOption.map (fun base =>
      (base.scheme, decide base.path.OpensTwice,
        (base.resource? Aggregator.reportTemplate ["4/2?#%", "", "ü\\"]).map (·.text)))
      = some ("http", false, some ("http://[::1]:8080/api/v1/organizations/4%2F2%3F%23%25/clusters//"
          ++ "users/%C3%BC%5C/report?a#b")) := by
    decide +kernel
  cases hparse : parse "http://[::1]:8080/api/v1/?a#b" with
  | error e =>
      rw [hparse] at hparts
      cases hparts
  | ok base =>
      rw [hparse] at hparts
      obtain ⟨hscheme, hmore⟩ := Prod.mk.inj (Option.some.inj hparts)
      obtain ⟨honce, hmade⟩ := Prod.mk.inj hmore
      obtain ⟨url, hurl, htext⟩ := Option.map_eq_some_iff.mp hmade
      have ht : Aggregator.reportTemplate ∈ endpointTemplates := by decide
      have hplain : ∀ p ∈ ["4/2?#%", "", "ü\\"], Plain p := by decide
      have hnames := resource_names_parameters hparse (.inl hscheme) (of_decide_eq_false honce) ht
        hplain
      exact ⟨base, url, rfl, hurl, htext.trans (by decide +kernel), (hnames.2.2 url hurl).1⟩

end Naming

end ReportGateway.Url
