import ReportGateway.Proofs.Isolation
import ReportGateway.Proofs.Routing

/-!
Where a request goes that says what a user does about a rule. The user is named in its path before
the last piece, and the path is then taken relative to the base of the results store. That keeps the
three texts that the route captures, the user and the base as they are exactly when none of the texts
is a dot or has a backslash and the base ends in a slash (`Proxy.target?_intercalate`); the query keeps
its meaning in any case. A user with other characters than those of a plain id is turned away, but
dots are plain, and an id of one or two of them is lost on the way together with what stands before.
-/

namespace ReportGateway

open ReportGateway.Action (Keeps keeps_done keeps_fail)
open Gateway (pieces actionPieces)
open Journal (onlyAsks_nil)
open Url (Kept cuts)

/-- What a request holds that came in over a request line: no tab or line break, and in its path
neither of the marks that end a path. -/
structure Inbound.WellSent (r : Inbound) : Prop where
  path : ∀ c ∈ r.path.toList, c ≠ '?' ∧ c ≠ '#' ∧ Url.isIgnored c = false
  query : ∀ q, r.query = some q → ∀ c ∈ q.toList, Url.isIgnored c = false

theorem Inbound.mem_of_afterScheme? {cs rest : List Char} (h : afterScheme? cs = some rest) {c : Char}
    (hc : c ∈ rest) : c ∈ cs := by
  simp only [afterScheme?] at h
  split at h
  · cases h
    exact List.mem_of_mem_drop (List.mem_of_mem_drop ((List.dropWhile_sublist _).mem hc))
  · cases h

/-- The path and the query of a target have no characters but those of the target, and no mark that
ends a path stands in the path. -/
theorem Inbound.mem_splitTarget (target : String) :
    (∀ c ∈ (splitTarget target).1.toList, c = '/' ∨ c ∈ target.toList ∧ c ≠ '?' ∧ c ≠ '#') ∧
      ∀ q, (splitTarget target).2 = some q → ∀ c ∈ q.toList, c ∈ target.toList := by
  have hwhole : ∀ c ∈ (if target.toList.head? = some '/' ∨ target.toList = ['*'] then target.toList
      else (afterScheme? target.toList).getD []), c ∈ target.toList := by
    intro c hc
    split at hc
    · exact hc
    · cases hrest : afterScheme? target.toList with
      | none =>
          rw [hrest] at hc
          exact absurd hc List.not_mem_nil
      | some rest =>
          rw [hrest] at hc
          exact mem_of_afterScheme? hrest hc
  simp only [splitTarget]
  generalize (if target.toList.head? = some '/' ∨ target.toList = ['*'] then target.toList
      else (afterScheme? target.toList).getD []) = whole at hwhole ⊢
  refine ⟨fun c hc => ?_, fun q hq c hc => ?_⟩
  · split at hc
    · exact Or.inl (List.mem_singleton.mp hc)
    · rw [String.toList_ofList] at hc
      have hmark := List.mem_takeWhile_imp hc
      have hshown := (List.takeWhile_sublist _).mem hc
      have hhash := List.mem_takeWhile_imp hshown
      exact Or.inr ⟨hwhole c ((List.takeWhile_sublist _).mem hshown), by simpa using hmark,
        by simpa using hhash⟩
  · have hshown : ∀ x ∈ (whole.takeWhile (· ≠ '#')).dropWhile (· ≠ '?'), x ∈ target.toList :=
      fun x hx => hwhole x ((List.takeWhile_sublist _).mem ((List.dropWhile_sublist _).mem hx))
    cases hrest : (whole.takeWhile (· ≠ '#')).dropWhile (· ≠ '?') with
    | nil =>
        rw [hrest] at hq
        cases hq
    | cons mark rest =>
        rw [hrest] at hq hshown
        cases hq
        rw [String.toList_ofList] at hc
        exact hshown c (List.mem_cons_of_mem _ hc)

theorem Inbound.wellSent_ofTarget (method : String) {target : String} (headers : Http.Headers)
    (body : ByteArray) (htarget : ∀ c ∈ target.toList, Url.isIgnored c = false) :
    (Inbound.ofTarget method target headers body).WellSent := by
  obtain ⟨hpath, hquery⟩ := mem_splitTarget target
  refine ⟨fun c hc => ?_, fun q hq c hc => htarget c (hquery q hq c hc)⟩
  rcases hpath c hc with rfl | ⟨hmem, hmark, hhash⟩
  · decide
  · exact ⟨hmark, hhash, htarget c hmem⟩

namespace Url

/-- The segments of a base path, without an empty one at the end. -/
def named (base : Url) : List String :=
  match base.path with
  | .segments l => if l.getLast? = some "" then l.dropLast else l
  | .bare _ => []

/-- A base path ends in a slash. -/
def EndsOpen (base : Url) : Prop :=
  ∀ l s, base.path = .segments (l ++ [s]) → s = ""

theorem named_cases {base : Url} {l : List String} (hpath : base.path = .segments l) :
    base.named = l.dropLast ∨ ∃ s, base.named = l.dropLast ++ [s] := by
  rw [named, hpath]
  dsimp only
  split
  · exact Or.inl rfl
  · rcases List.eq_nil_or_concat l with rfl | ⟨front, last, rfl⟩
    · exact Or.inl rfl
    · rw [List.concat_eq_append, List.dropLast_concat]
      exact Or.inr ⟨last, rfl⟩

theorem named_eq_dropLast_iff {base : Url} {l : List String} (hpath : base.path = .segments l) :
    base.named = l.dropLast ↔ base.EndsOpen := by
  rw [named, hpath, EndsOpen, hpath]
  dsimp only
  rcases List.eq_nil_or_concat l with rfl | ⟨front, last, rfl⟩
  · simp
  · rw [List.concat_eq_append, List.dropLast_concat, List.getLast?_concat]
    constructor
    · intro h l' s hsame
      obtain ⟨-, hlast⟩ := List.append_inj' (Path.segments.inj hsame) rfl
      rw [← List.singleton_inj.mp hlast]
      by_cases hempty : last = ""
      · exact hempty
      · rw [if_neg (by simpa using hempty)] at h
        exact absurd h (by simp)
    · intro h
      rw [if_pos (by rw [h front last rfl])]

end Url

namespace Proxy

/-- Before its last piece and the slash there, a path is what it was. -/
theorem splitAction?_append {front action : String} (hslash : '/' ∉ action.toList)
    (hne : action ≠ "") : splitAction? (front ++ "/" ++ action) = some (front, action) := by
  have hlist : (front ++ "/" ++ action).toList.reverse
      = action.toList.reverse ++ '/' :: front.toList.reverse := by
    have htext : "/".toList = ['/'] := rfl
    rw [String.toList_append, String.toList_append, htext]
    simp
  have hnone : ∀ c ∈ action.toList.reverse, (decide (c ≠ '/')) = true := by
    intro c hc
    rw [List.mem_reverse] at hc
    simpa using fun heq : c = '/' => hslash (heq ▸ hc)
  have hempty : action.toList.reverse ≠ [] := by
    rw [ne_eq, List.reverse_eq_nil_iff]
    exact fun h => hne (String.toList_inj.mp h)
  have hstart : (action.toList.reverse ++ '/' :: front.toList.reverse).dropWhile (· = '/')
      = action.toList.reverse ++ '/' :: front.toList.reverse := by
    obtain ⟨c, cs, hcons⟩ := List.exists_cons_of_ne_nil hempty
    have hc : c ≠ '/' := by simpa using hnone c (by rw [hcons]; exact List.mem_cons_self)
    rw [hcons, List.cons_append, List.dropWhile_cons_of_neg (by simpa using hc)]
  have htake : (action.toList.reverse ++ '/' :: front.toList.reverse).takeWhile (· ≠ '/')
      = action.toList.reverse := by
    rw [List.takeWhile_append_of_pos hnone]
    simp
  have hdrop : (action.toList.reverse ++ '/' :: front.toList.reverse).dropWhile (· ≠ '/')
      = '/' :: front.toList.reverse := by
    rw [List.dropWhile_append_of_pos hnone]
    simp
  rw [splitAction?, hlist, hstart]
  simp only [htake, hdrop, List.isEmpty_iff, hempty, if_false, List.reverse_reverse,
    String.ofList_toList]

theorem mem_intercalate {texts : List String} {c : Char}
    (hc : c ∈ ("/".intercalate texts).toList) : c = '/' ∨ ∃ s ∈ texts, c ∈ s.toList := by
  induction texts with
  | nil => exact absurd hc (by simp)
  | cons s texts ih =>
      cases texts with
      | nil =>
          rw [String.intercalate_singleton] at hc
          exact Or.inr ⟨s, List.mem_singleton_self s, hc⟩
      | cons t texts =>
          rw [String.intercalate_cons_cons, String.toList_append, String.toList_append,
            List.mem_append, List.mem_append] at hc
          rcases hc with (hc | hc) | hc
          · exact Or.inr ⟨s, List.mem_cons_self, hc⟩
          · exact Or.inl (List.mem_singleton.mp hc)
          · rcases ih hc with hslash | ⟨u, hu, hc⟩
            · exact Or.inl hslash
            · exact Or.inr ⟨u, List.mem_cons_of_mem _ hu, hc⟩

theorem exists_concat_intercalate (texts : List String) {last : String} {front : List Char} {d : Char}
    (hlast : last.toList = front ++ [d]) :
    ∃ most, ("/".intercalate (texts ++ [last])).toList = most ++ [d] := by
  by_cases hne : texts = []
  · exact ⟨front, by rw [hne, List.nil_append, String.intercalate_singleton, hlast]⟩
  · rw [String.intercalate_append_of_ne_nil hne (List.cons_ne_nil _ _),
      String.intercalate_singleton, String.toList_append, hlast, ← List.append_assoc]
    exact ⟨_, rfl⟩

/-- The path that texts make is passed on as it is but for the slash in front. -/
theorem dropWhile_intercalate {first : String} (hfirst : first ≠ "") (hslash : '/' ∉ first.toList)
    (texts : List String) :
    ("/" ++ "/".intercalate (first :: texts)).toList.dropWhile (· = '/')
      = ("/".intercalate (first :: texts)).toList := by
  have hne : first.toList ≠ [] := fun h => hfirst (String.toList_inj.mp h)
  obtain ⟨c, cs, hcons⟩ := List.exists_cons_of_ne_nil hne
  have hc : c ≠ '/' := by
    rintro rfl
    exact hslash (by rw [hcons]; exact List.mem_cons_self)
  have hstart : ∃ rest, ("/".intercalate (first :: texts)).toList = c :: rest := by
    cases texts with
    | nil => exact ⟨cs, by rw [String.intercalate_singleton, hcons]⟩
    | cons t texts =>
        rw [String.intercalate_cons_cons, String.toList_append, String.toList_append, hcons]
        exact ⟨_, rfl⟩
  obtain ⟨rest, hrest⟩ := hstart
  have htext : "/".toList = ['/'] := rfl
  rw [String.toList_append, htext, hrest, List.singleton_append, List.dropWhile_cons_of_pos (by simp),
    List.dropWhile_cons_of_neg (by simpa using hc)]

theorem keepsEscapes_specialQuery : Url.Percent.KeepsEscapes Url.Percent.specialQuery where
  percent := by decide
  digit := Url.Percent.forall_byte (by decide +kernel)

/-- A query that is passed on stands for the bytes that it stood for. -/
theorem decode_setQuery {u : Url} (hhttp : u.scheme = "http" ∨ u.scheme = "https")
    {query : Option String} (hquery : ∀ q, query = some q → ∀ c ∈ q.toList, Url.isIgnored c = false) :
    (u.setQuery query).query.map Url.Percent.decode = query.map Url.Percent.decode := by
  have hspecial : u.special = true := Url.isSpecial_of_http hhttp
  cases query with
  | none => rfl
  | some q =>
      have hfilter : q.toList.filter (!Url.isIgnored ·) = q.toList := by
        rw [List.filter_eq_self]
        intro c hc
        rw [hquery q rfl c hc]
        rfl
      rw [Url.setQuery, Option.map_some, Option.map_some, Option.map_some, hfilter, hspecial,
        if_pos rfl, Url.Percent.decode_encode_of_keeps keepsEscapes_specialQuery,
        String.ofList_toList]

/-- Texts that have nothing in them by which a path is divided or ended. -/
def Clean (s : String) : Prop :=
  ∀ c ∈ s.toList, c ≠ '/' ∧ c ≠ '?' ∧ c ≠ '#' ∧ Url.isIgnored c = false

instance (s : String) : Decidable (Clean s) :=
  decidable_of_iff
    (s.toList.all (fun c => c ≠ '/' ∧ c ≠ '?' ∧ c ≠ '#' ∧ Url.isIgnored c = false) = true)
    (by simp [Clean])

theorem Clean.slash_not_mem {s : String} (h : Clean s) : '/' ∉ s.toList :=
  fun hslash => (h '/' hslash).1 rfl

theorem forall_mem_intercalate {texts : List String} (h : ∀ s ∈ texts, Clean s) :
    ∀ c ∈ ("/".intercalate texts).toList, c ≠ '?' ∧ c ≠ '#' ∧ Url.isIgnored c = false := by
  intro c hc
  rcases mem_intercalate hc with rfl | ⟨s, hs, hc⟩
  · decide
  · exact (h s hs c hc).2

theorem target?_of_join {base url : Url} {first : String} (hfirst : first ≠ "")
    (hslash : '/' ∉ first.toList) {texts : List String}
    (hjoin : base.join ("./" ++ "/".intercalate (first :: texts)) = .ok url)
    (query : Option String) :
    target? base ("/" ++ "/".intercalate (first :: texts)) query = some (url.setQuery query) := by
  rw [target?, target, dropWhile_intercalate hfirst hslash, String.ofList_toList, hjoin]
  rfl

/-- The place that a path of clean texts is passed on to. It names the texts under the base if and
only if the base ends in a slash and every text before the last is kept. -/
theorem target?_intercalate {base : Url} (hbase : base.IsBase) {first : String} (hfirst : first ≠ "")
    {texts : List String} {last : String} {front : List Char} {d : Char}
    (hclean : ∀ s ∈ first :: texts ++ [last], Clean s) (hkept : Kept last)
    (hlast : last.toList = front ++ [d]) (hd : Url.isTrimmed d = false) {query : Option String}
    (hquery : ∀ q, query = some q → ∀ c ∈ q.toList, Url.isIgnored c = false) :
    ∃ url, target? base ("/" ++ "/".intercalate (first :: texts ++ [last])) query = some url ∧
      url.scheme = base.scheme ∧ url.host = base.host ∧ url.port = base.port ∧
      (url.path.decoded = (Url.Path.segments base.named).decoded
          ++ (first :: texts ++ [last]).map Url.Percent.decode ↔
        base.EndsOpen ∧ ∀ s ∈ first :: texts, Kept s) ∧
      url.query.map Url.Percent.decode = query.map Url.Percent.decode := by
  obtain ⟨most, hmost⟩ := exists_concat_intercalate (first :: texts) hlast
  have hslash : ∀ s ∈ first :: texts, '/' ∉ s.toList := fun s hs =>
    (hclean s (List.mem_append_left _ hs)).slash_not_mem
  have hslashLast : '/' ∉ last.toList := (hclean last (by simp)).slash_not_mem
  have hsegments := hbase.hasSegments
  cases hpath : base.path with
  | bare text =>
      rw [Url.hasSegments, hpath] at hsegments
      cases hsegments
  | segments l =>
      obtain ⟨url, hjoin, hscheme, hhost, hport, hurl⟩ :=
        Url.join_relative (forall_mem_intercalate hclean) hbase.isHttp hpath hmost hd
      refine ⟨url.setQuery query, ?_, hscheme, hhost, hport, ?_, ?_⟩
      · exact target?_of_join hfirst (hslash first List.mem_cons_self) hjoin query
      · show url.path.decoded = _ ↔ _
        have hcuts : cuts (first :: texts ++ [last]) = cuts (first :: texts) ++ [last.toList] := by
          rw [cuts, List.flatMap_append, List.flatMap_singleton,
            Url.splitAtAll_of_forall (Url.isSlash_eq_false hslashLast hkept.1)]
          rfl
        rw [hurl, Gateway.splitAtAll_intercalate (by decide) (by simp), ← cuts, hcuts,
          Url.decoded_resolve_iff (Url.named_cases hpath) hslash hslashLast hkept,
          Url.named_eq_dropLast_iff hpath]
      · exact decode_setQuery (by rw [hscheme]; exact hbase.isHttp) hquery

section Users

variable {user : String} (h : isPlainUser user = true)

include h

theorem isPlain_of_mem {c : Char} (hc : c ∈ user.toList) :
    (c.isAlphanum || c = '-' || c = '_' || c = '.') = true :=
  List.all_eq_true.mp h c hc

theorem ne_of_isPlainUser {c d : Char} (hc : c ∈ user.toList)
    (hd : (d.isAlphanum || d = '-' || d = '_' || d = '.') = false) : c ≠ d := by
  rintro rfl
  rw [isPlain_of_mem h hc] at hd
  cases hd

theorem clean_of_isPlainUser : Clean user := by
  intro c hc
  have hne := fun {d : Char} => ne_of_isPlainUser (d := d) h hc
  refine ⟨hne (by decide), hne (by decide), hne (by decide), ?_⟩
  simp [Url.isIgnored, hne (d := '\t') (by decide), hne (d := '\n') (by decide),
    hne (d := '\r') (by decide)]

theorem decode_of_isPlainUser : Url.Percent.decode user = Utf8.encode user :=
  Url.Percent.decode_of_not_mem fun hc => absurd (isPlain_of_mem h hc) (by decide)

end Users

/-- A caller whose id is plain is named before the last piece of a path; any other is turned away. -/
theorem insertUser_eq_ok {r r' : Inbound} {caller : Caller} (hcaller : r.caller = some caller)
    {texts : List String} (hne : texts ≠ []) {action : String} (hslash : '/' ∉ action.toList)
    (haction : action ≠ "") (hpath : r.path = "/" ++ "/".intercalate (texts ++ [action]))
    (h : insertUser r = .ok r') :
    isPlainUser caller.user = true ∧
      r' = { r with path := "/" ++ "/".intercalate (texts ++ ["users", caller.user] ++ [action]) } := by
  have hsplit : splitAction? r.path = some ("/" ++ "/".intercalate texts, action) := by
    rw [hpath, String.intercalate_append_of_ne_nil hne (List.cons_ne_nil _ _),
      String.intercalate_singleton, ← String.append_assoc, ← String.append_assoc]
    exact splitAction?_append hslash haction
  rw [insertUser, hcaller] at h
  dsimp only at h
  split at h
  · cases h
  · rename_i hplain
    rw [hsplit] at h
    cases h
    refine ⟨by simpa using hplain, ?_⟩
    rw [← hcaller]
    congr 1
    rw [String.intercalate_append_of_ne_nil (by simp) (List.cons_ne_nil _ _),
      String.intercalate_append_of_ne_nil hne (List.cons_ne_nil _ _),
      String.intercalate_singleton, String.intercalate_cons_cons, String.intercalate_singleton]
    have husers : "/users/" = "/" ++ "users" ++ "/" := rfl
    rw [husers]
    simp only [String.append_assoc]

/-- Passing a request on asks for one place: where the modified request leads under the base. -/
theorem keeps_forward {P : Http.Request → Prop} {v : Services} {content : Content.Lookup}
    {route : Route} {r : Inbound}
    (hP : ∀ r' url request, runAll route.requestModifiers r = .ok r' →
      target? route.base r'.path r'.query = some url → request.url = url →
      P (Http.Client.authorize request)) :
    Keeps P v content (forward route r) := by
  rw [forward]
  split
  · exact keeps_fail _
  refine Keeps.map _ ?_
  rw [dispatch]
  refine Gateway.keeps_done_bind _ fun r' hr' => ?_
  refine Gateway.keeps_done_bind _ fun url hurl => ?_
  have htarget : target? route.base r'.path r'.query = some url := congrArg Except.toOption hurl
  exact (Http.Client.keeps_send (hP r' url _ hr' htarget rfl)).bind fun _ =>
    Gateway.keeps_done_bind _ fun _ _ => keeps_done _

end Proxy

namespace Gateway

/-- A request says under a base what a user does about a rule: its path names the texts that the
route has captured and the user in their places, if and only if the base ends in a slash, none of the
texts is a dot or has a backslash, and the user is no dot. Its query stands for the same bytes as that
of the request to the gateway, or is absent with it. -/
def ActsOnRule (base : Url) (r : Inbound) (user : String) (found : List (String × String))
    (request : Http.Request) : Prop :=
  ∃ front earlier cluster ruleId errorKey action, action ∈ ruleActions ∧
    pieces r.path = front ++ actionPieces cluster ruleId errorKey action ∧
    found = earlier ++ [("cluster", cluster), ("rule_id", ruleId), ("error_key", errorKey)] ∧
    request.url.scheme = base.scheme ∧ request.url.host = base.host ∧ request.url.port = base.port ∧
    (request.url.path.decoded = (Url.Path.segments base.named).decoded
        ++ [Utf8.encode "clusters", Url.Percent.decode cluster, Utf8.encode "rules",
          Url.Percent.decode ruleId, Utf8.encode "error_key", Url.Percent.decode errorKey,
          Utf8.encode "users", Utf8.encode user, Utf8.encode action] ↔
      base.EndsOpen ∧ ∀ s ∈ [cluster, ruleId, errorKey, user], Kept s) ∧
    request.url.query.map Url.Percent.decode = r.query.map Url.Percent.decode

section Forward

variable {g : Gateway} (hg : Configured g) (hwhole : CapturesWhole g.path) {r : Inbound}
  (hsent : r.WellSent) {caller : Caller} {found : List (String × String)}

theorem kept_of_action : ∀ action ∈ ruleActions,
    action ≠ "" ∧ Kept action ∧ Proxy.Clean action ∧
      Url.Percent.decode action = Utf8.encode action := by
  decide

theorem last_of_action {action : String} (h : action ∈ ruleActions) :
    ∃ front d, action.toList = front ++ [d] ∧ Url.isTrimmed d = false := by
  have hany : ∀ action ∈ ruleActions, action.toList.getLast?.any (!Url.isTrimmed ·) = true := by
    decide
  obtain ⟨d, hd?, htrimmed⟩ := (Option.any_eq_true _ _).mp (hany action h)
  obtain ⟨front, hlast⟩ := List.getLast?_eq_some_iff.mp hd?
  exact ⟨front, d, hlast, by simpa using htrimmed⟩

include hsent in
theorem clean_of_mem_pieces {s : String} (hs : s ∈ pieces r.path) : Proxy.Clean s := by
  intro c hc
  obtain ⟨hslash, hmem⟩ := mem_pieces hs hc
  exact ⟨hslash, hsent.path c hmem⟩

include hg hwhole hsent

theorem keeps_ruleAction (hasked : Asked g r caller .ruleAction found) (v : Services)
    (content : Content.Lookup) :
    Keeps (ActsOnRule g.aggregator r caller.user found) v content
      (Proxy.forward g.ruleActionRoute (seen g caller r)) := by
  obtain ⟨-, route, hroute, hendpoint, -⟩ := hasked
  obtain ⟨front, earlier, cluster, ruleId, errorKey, action, haction, hpieces, hfits, hfound⟩ :=
    findRoute_ruleAction hroute hendpoint
  obtain ⟨hne, hkept, hclean, hdecode⟩ := kept_of_action action haction
  obtain ⟨most, d, hlast, hd⟩ := last_of_action haction
  have hseen : (seen g caller r).path = "/" ++ "/".intercalate
      (["clusters", cluster, "rules", ruleId, "error_key", errorKey] ++ [action]) :=
    relativePath_of_fits hwhole hpieces hfits
  refine Proxy.keeps_forward fun r' url request hr' htarget hurl => ?_
  have hinsert : Proxy.insertUser (seen g caller r) = .ok r' := by
    obtain ⟨r'', hr'', hpure⟩ := exists_of_bind_eq_ok hr'
    cases hpure
    exact hr''
  obtain ⟨hplain, rfl⟩ := Proxy.insertUser_eq_ok rfl (List.cons_ne_nil _ _) hclean.slash_not_mem hne
    hseen hinsert
  have htexts : ∀ s ∈ ["clusters", cluster, "rules", ruleId, "error_key", errorKey, "users",
      caller.user] ++ [action], Proxy.Clean s := by
    have hown : ∀ s ∈ actionPieces cluster ruleId errorKey action, Proxy.Clean s := fun s hs =>
      clean_of_mem_pieces hsent (by rw [hpieces]; exact List.mem_append_right _ hs)
    have husers : Proxy.Clean "users" := by decide
    have huser := Proxy.clean_of_isPlainUser hplain
    simp only [actionPieces, List.cons_append, List.nil_append, List.forall_mem_cons] at hown ⊢
    exact ⟨hown.1, hown.2.1, hown.2.2.1, hown.2.2.2.1, hown.2.2.2.2.1, hown.2.2.2.2.2.1, husers,
      huser, hown.2.2.2.2.2.2⟩
  obtain ⟨place, hplace, hscheme, hhost, hport, hpath, hquery⟩ :=
    Proxy.target?_intercalate hg.aggregator (by decide) htexts hkept hlast hd hsent.query
  have hsame : url = place := Option.some.inj (htarget.symm.trans hplace)
  obtain ⟨hscheme', hhost', hport', hpath', hquery'⟩ := Http.Client.authorize_url request
  rw [hurl, hsame] at hscheme' hhost' hport' hpath' hquery'
  refine ⟨front, earlier, cluster, ruleId, errorKey, action, haction, hpieces, hfound,
    hscheme'.trans hscheme, hhost'.trans hhost, hport'.trans hport, ?_, ?_⟩
  · have hfixed : Url.Percent.decode "clusters" = Utf8.encode "clusters" ∧
        Url.Percent.decode "rules" = Utf8.encode "rules" ∧
        Url.Percent.decode "error_key" = Utf8.encode "error_key" ∧
        Url.Percent.decode "users" = Utf8.encode "users" := by decide
    have hkeeps : Kept "clusters" ∧ Kept "rules" ∧ Kept "error_key" ∧ Kept "users" := by decide
    simp only [List.cons_append, List.nil_append, List.map_cons, List.map_nil, List.forall_mem_cons,
      hfixed, hkeeps, hdecode, Proxy.decode_of_isPlainUser hplain, true_and] at hpath
    rw [hpath', hpath]
    simp only [List.forall_mem_cons]
  · rw [hquery', hquery]

end Forward

/-- Whatever the results store gets first for a request that says what a user does about a rule, it
gets it at its base, with the query that was sent, and with the texts of the path and the user in
their places if and only if `ActsOnRule` says so. -/
theorem ruleAction_arrives {s : Settings} {g : Gateway} (hg : ofSettings s = .ok g)
    (hwhole : CapturesWhole g.path) {method target : String} {headers : Http.Headers}
    {body : ByteArray} (htarget : ∀ c ∈ target.toList, Url.isIgnored c = false) {caller : Caller}
    {found : List (String × String)}
    (hasked : Asked g (.ofTarget method target headers body) caller .ruleAction found)
    {v : Services} {content : Content.Lookup} {groups : Content.Groups} {id : String}
    {request : Http.Request} {reply : Http.Reply}
    (hfirst : (served g v content groups id (.ofTarget method target headers body)).2.head?
      = some (request, reply)) :
    ActsOnRule g.aggregator (.ofTarget method target headers body) caller.user found request := by
  rcases leftBy_served g groups (.ofTarget method target headers body) v content id with
    hnone | ⟨caller', resource, found', hasked', hleft⟩
  · rw [hnone] at hfirst
    cases hfirst
  · obtain ⟨rfl, rfl, rfl⟩ := hasked.unique hasked'
    have hsent := Inbound.wellSent_ofTarget method headers body htarget
    have hkeeps := (keeps_ruleAction (configured_of_settings hg) hwhole hsent hasked v
      content).mapError Rejection.failure
    rw [hleft] at hfirst
    exact (hkeeps [] onlyAsks_nil).head hfirst

section Loopback

/-- The target by which users like a rule on a cluster. -/
def likeTarget (cluster : String) : String :=
  loopback.routePath ++ "/clusters/" ++ cluster ++ "/rules/r/error_key/k/like"

def likeRule (cluster user : String) : Inbound :=
  .ofTarget "PUT" (likeTarget cluster) (headersOf "7" user) .empty

/-- The place where such a request is to arrive. -/
def likePlace (cluster user : String) : List (List UInt8) :=
  ["api", "clusters", cluster, "rules", "r", "error_key", "k", "users", user, "like"].map
    Utf8.encode

theorem ruleAction_arrives_on_loopback :
    firstPlace (likeRule "c" "u") = some (likePlace "c" "u") ∧
      ∃ g request, ofSettings loopback = .ok g ∧
        firstAsked (likeRule "c" "u") = some request ∧
        ActsOnRule g.aggregator (likeRule "c" "u") "u"
          [("cluster", "c"), ("rule_id", "r"), ("error_key", "k")] request := by
  have hplace : firstPlace (likeRule "c" "u") = some (likePlace "c" "u") := by decide +kernel
  obtain ⟨request, hfirst, -⟩ := Option.map_eq_some_iff.mp hplace
  obtain ⟨g, reply, hg, hserved⟩ := firstAsked_eq_some hfirst
  obtain ⟨-, -, -, -, hpath, -⟩ := ofSettings_eq_ok hg
  have hwhole : CapturesWhole g.path := by
    rw [hpath]
    decide +kernel
  have hasked : Asked g (likeRule "c" "u") ⟨"7", "", "u"⟩ .ruleAction
      [("cluster", "c"), ("rule_id", "r"), ("error_key", "k")] := by
    rw [asked_iff, hpath]
    decide +kernel
  have hsent : (likeTarget "c").toList.all (!Url.isIgnored ·) = true := by decide +kernel
  exact ⟨hplace, g, request, hg, hfirst,
    ruleAction_arrives hg hwhole (by simpa using hsent) hasked hserved⟩

/-- Two dots for a user are lost together with what stands before them, and dots between backslashes
in the place of a cluster lead away from the base. -/
theorem dots_lead_elsewhere :
    caller? (likeRule "c" "..").headers = some ⟨"7", "", ".."⟩ ∧
      firstPlace (likeRule "c" "..")
        = some (["api", "clusters", "c", "rules", "r", "error_key", "k", "like"].map Utf8.encode) ∧
      firstPlace (likeRule "c" "..") ≠ some (likePlace "c" "..") ∧
      firstPlace (likeRule "..\\..\\x" "u")
        = some (["x", "rules", "r", "error_key", "k", "users", "u", "like"].map Utf8.encode) ∧
      firstPlace (likeRule "..\\..\\x" "u") ≠ some (likePlace "..\\..\\x" "u") := by
  have hknown : caller? (likeRule "c" "..").headers = some ⟨"7", "", ".."⟩ := by decide +kernel
  have huser : firstPlace (likeRule "c" "..")
      = some (["api", "clusters", "c", "rules", "r", "error_key", "k", "like"].map Utf8.encode) := by
    decide +kernel
  have hcluster : firstPlace (likeRule "..\\..\\x" "u")
      = some (["x", "rules", "r", "error_key", "k", "users", "u", "like"].map Utf8.encode) := by
    decide +kernel
  refine ⟨hknown, huser, ?_, hcluster, ?_⟩
  · rw [huser]
    decide
  · rw [hcluster]
    decide

end Loopback

end Gateway

end ReportGateway
