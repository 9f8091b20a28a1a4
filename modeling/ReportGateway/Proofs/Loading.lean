import Mathlib.Data.List.DropRight
import ReportGateway.Gateway.Launch
import ReportGateway.Proofs.Serving

/-!
What settings have to meet, and what comes of them. There are seven `Requirement`s; each is about one
field, holds or does not, and has an error of its own. `check` goes through them in order and ends in
the error of the first that does not hold (`check_eq_error_iff`), so it accepts just those settings
from which a gateway can be started (`check_eq_ok_iff_ready`). Settings that were read from a text or
a file have passed it, whichever way they were read, and so the only errors in settings that starting a
gateway meets are those of reading them (`Gateway.launch_eq_refused_iff`).
-/

namespace ReportGateway

section Sequences

variable {α ε : Type} {f : α → Except ε Unit} {l : List α}

theorem forM_eq_ok_iff : l.forM f = .ok () ↔ ∀ x ∈ l, f x = .ok () := by
  induction l with
  | nil => simp only [List.not_mem_nil, false_imp_iff, implies_true, iff_true]; rfl
  | cons y l ih =>
      rw [List.forall_mem_cons, ← ih]
      show (f y >>= fun _ => l.forM f) = .ok () ↔ _
      cases hy : f y with
      | error e => exact ⟨fun h => (by cases h), fun h => (by cases h.1)⟩
      | ok _ => exact ⟨fun h => ⟨rfl, h⟩, fun h => h.2⟩

/-- A sequence of checks fails with the error of the first that fails. -/
theorem forM_eq_error_iff {e : ε} :
    l.forM f = .error e ↔ ∃ before x after, l = before ++ x :: after ∧
      (∀ y ∈ before, f y = .ok ()) ∧ f x = .error e := by
  induction l with
  | nil =>
      refine ⟨fun h => (by cases h), ?_⟩
      rintro ⟨before, x, after, hwhole, -⟩
      exact absurd hwhole.symm (List.append_ne_nil_of_right_ne_nil _ (List.cons_ne_nil _ _))
  | cons y l ih =>
      show (f y >>= fun _ => l.forM f) = .error e ↔ _
      cases hy : f y with
      | error e' =>
          constructor
          · rintro ⟨⟩
            exact ⟨[], y, l, rfl, fun _ hmem => absurd hmem List.not_mem_nil, hy⟩
          · rintro ⟨before, x, after, hwhole, hbefore, hx⟩
            rcases List.cons_eq_append_iff.mp hwhole with ⟨rfl, hl⟩ | ⟨front, rfl, -⟩
            · obtain ⟨rfl, -⟩ := List.cons.inj hl
              exact congrArg Except.error (Except.error.inj (hy.symm.trans hx))
            · cases hy.symm.trans (hbefore y List.mem_cons_self)
      | ok _ =>
          refine ih.trans ⟨?_, ?_⟩
          · rintro ⟨before, x, after, rfl, hbefore, hx⟩
            exact ⟨y :: before, x, after, rfl, List.forall_mem_cons.mpr ⟨hy, hbefore⟩, hx⟩
          · rintro ⟨before, x, after, hwhole, hbefore, hx⟩
            rcases List.cons_eq_append_iff.mp hwhole with ⟨rfl, hl⟩ | ⟨front, rfl, hl⟩
            · obtain ⟨rfl, -⟩ := List.cons.inj hl
              cases hy.symm.trans hx
            · exact ⟨front, x, after, hl, (List.forall_mem_cons.mp hbefore).2, hx⟩

end Sequences

namespace Settings

/-- What settings have to meet. -/
inductive Requirement
  | aggregator
  | content
  | membership
  | timeout
  | pollInterval
  | path
  | address
deriving DecidableEq

/-- A text is a base URL, with a slash at its end if it has none. -/
def IsBaseUrl (raw : String) : Prop := ∃ url, Url.parse (withSlash raw) = .ok url ∧ url.IsBase

/-- What is wrong with a text that is no base URL. -/
def baseMessage (raw : String) : String :=
  match Url.parse (withSlash raw) with
  | .error e => e.message
  | .ok _ => raw ++ " is not an http(s) base URL"

theorem baseUrl_cases (field raw : String) :
    (IsBaseUrl raw ∧ ∃ url, baseUrl field raw = .ok url) ∨
      (¬IsBaseUrl raw ∧ baseUrl field raw = .error (.invalid field (baseMessage raw))) := by
  rw [baseUrl, baseMessage]
  cases hparse : Url.parse (withSlash raw) with
  | error e =>
      refine Or.inr ⟨?_, rfl⟩
      rintro ⟨url, hurl, -⟩
      rw [hparse] at hurl
      cases hurl
  | ok url =>
      dsimp only
      split
      · rename_i hbase
        exact Or.inl ⟨⟨url, hparse, hbase.1, hbase.2⟩, url, rfl⟩
      · rename_i hnone
        refine Or.inr ⟨?_, rfl⟩
        rintro ⟨other, hother, hbase⟩
        rw [hparse] at hother
        cases hother
        exact hnone ⟨hbase.hasSegments, hbase.isHttp⟩

namespace Requirement

/-- All requirements, in the order in which they are checked. -/
def all : List Requirement :=
  [.aggregator, .content, .membership, .timeout, .pollInterval, .path, .address]

/-- The field that a requirement is about. -/
def field : Requirement → String
  | .aggregator => "services.aggregator_base_endpoint"
  | .content => "services.content_base_endpoint"
  | .membership => "membership.url"
  | .timeout => "services.request_timeout_secs"
  | .pollInterval => "services.groups_poll_interval_secs"
  | .path => "server.api_prefix"
  | .address => "server.address"

/-- Settings meet a requirement. -/
def Holds (s : Settings) : Requirement → Prop
  | .aggregator => IsBaseUrl s.services.aggregator
  | .content => IsBaseUrl s.services.content
  | .membership => ∀ raw, s.membership = some raw → IsBaseUrl raw
  | .timeout => 0 < s.services.requestTimeout
  | .pollInterval => 0 < s.services.pollInterval
  | .path => s.server.apiPath.toList.head? = some '/' ∧ ∃ c ∈ s.server.apiPath.toList, c ≠ '/'
  | .address => ∃ a, Address.Socket.parse? s.server.address = some a

/-- What is said of settings that do not meet a requirement. -/
def message (s : Settings) : Requirement → String
  | .aggregator => baseMessage s.services.aggregator
  | .content => baseMessage s.services.content
  | .membership => (s.membership.map baseMessage).getD ""
  | .timeout => "must be greater than 0"
  | .pollInterval => "must be greater than 0"
  | .path => "must start with '/' and name at least one segment"
  | .address => "invalid socket address syntax"

/-- The error of settings that do not meet a requirement. -/
def fault (s : Settings) (q : Requirement) : Error := .invalid q.field (q.message s)

def check (s : Settings) : Requirement → Except Error Unit
  | .aggregator => discard s.aggregatorUrl
  | .content => discard s.contentUrl
  | .membership => discard s.membershipUrl
  | .timeout => positive "services.request_timeout_secs" s.services.requestTimeout
  | .pollInterval => positive "services.groups_poll_interval_secs" s.services.pollInterval
  | .path => s.checkPath
  | .address => discard s.socketAddress

end Requirement

theorem toList_routePath (s : Settings) :
    s.routePath.toList = s.server.apiPath.toList.rdropWhile (· = '/') := String.toList_ofList

/-- The path of a gateway has something in it unless it is written with slashes alone. -/
theorem routePath_ne_empty_iff (s : Settings) :
    s.routePath ≠ "" ↔ ∃ c ∈ s.server.apiPath.toList, c ≠ '/' := by
  rw [ne_eq, ← String.toList_eq_nil_iff, toList_routePath, List.rdropWhile_eq_nil_iff]
  simp

section Checks

variable (s : Settings)

theorem positive_cases (field : String) (n : Nat) :
    (0 < n ∧ positive field n = .ok ()) ∨
      (¬0 < n ∧ positive field n = .error (.invalid field "must be greater than 0")) := by
  rw [positive]
  split
  · rename_i hzero
    exact Or.inr ⟨by omega, rfl⟩
  · rename_i hpositive
    exact Or.inl ⟨Nat.pos_of_ne_zero hpositive, rfl⟩

/-- A requirement holds and is passed, or does not and ends the check in its error. -/
theorem Requirement.check_cases (q : Requirement) :
    (q.Holds s ∧ q.check s = .ok ()) ∨ (¬q.Holds s ∧ q.check s = .error (q.fault s)) := by
  cases q with
  | aggregator =>
      rcases baseUrl_cases "services.aggregator_base_endpoint" s.services.aggregator with
        ⟨hholds, url, hurl⟩ | ⟨hnone, hfault⟩
      · exact Or.inl ⟨hholds, by rw [check, aggregatorUrl, hurl]; rfl⟩
      · exact Or.inr ⟨hnone, by rw [check, aggregatorUrl, hfault]; rfl⟩
  | content =>
      rcases baseUrl_cases "services.content_base_endpoint" s.services.content with
        ⟨hholds, url, hurl⟩ | ⟨hnone, hfault⟩
      · exact Or.inl ⟨hholds, by rw [check, contentUrl, hurl]; rfl⟩
      · exact Or.inr ⟨hnone, by rw [check, contentUrl, hfault]; rfl⟩
  | membership =>
      rw [Holds, check, membershipUrl, fault, message]
      cases hgiven : s.membership with
      | none => exact Or.inl ⟨fun raw h => (by cases h), rfl⟩
      | some raw =>
          rcases baseUrl_cases "membership.url" raw with ⟨hholds, url, hurl⟩ | ⟨hnone, hfault⟩
          · refine Or.inl ⟨?_, by dsimp only; rw [hurl]; rfl⟩
            rintro _ ⟨⟩
            exact hholds
          · refine Or.inr ⟨fun hall => hnone (hall raw rfl), ?_⟩
            dsimp only
            rw [hfault, Option.map_some, Option.getD_some]
            rfl
  | timeout => exact positive_cases _ _
  | pollInterval => exact positive_cases _ _
  | path =>
      rw [Holds, check, checkPath, ← routePath_ne_empty_iff]
      by_cases hpath : s.server.apiPath.toList.head? = some '/' ∧ s.routePath ≠ ""
      · exact Or.inl ⟨hpath, if_pos hpath⟩
      · exact Or.inr ⟨hpath, if_neg hpath⟩
  | address =>
      unfold check socketAddress
      cases hparse : Address.Socket.parse? s.server.address with
      | none =>
          refine Or.inr ⟨?_, rfl⟩
          rintro ⟨a, ha⟩
          cases hparse.symm.trans ha
      | some a => exact Or.inl ⟨⟨a, hparse⟩, rfl⟩

theorem Requirement.check_eq_ok_iff {q : Requirement} : q.check s = .ok () ↔ q.Holds s := by
  rcases q.check_cases s with ⟨hholds, hcheck⟩ | ⟨hnot, hcheck⟩
  · exact ⟨fun _ => hholds, fun _ => hcheck⟩
  · rw [hcheck]
    exact ⟨fun h => (by cases h), fun h => absurd h hnot⟩

theorem Requirement.check_eq_error_iff {q : Requirement} {e : Error} :
    q.check s = .error e ↔ ¬q.Holds s ∧ e = q.fault s := by
  rcases q.check_cases s with ⟨hholds, hcheck⟩ | ⟨hnot, hcheck⟩
  · rw [hcheck]
    exact ⟨fun h => (by cases h), fun h => absurd hholds h.1⟩
  · rw [hcheck, Except.error.injEq]
    exact ⟨fun h => ⟨hnot, h.symm⟩, fun h => h.2.symm⟩

theorem check_eq_forM : s.check = Requirement.all.forM (Requirement.check s) := by
  show s.check = do
    discard s.aggregatorUrl
    discard s.contentUrl
    discard s.membershipUrl
    positive "services.request_timeout_secs" s.services.requestTimeout
    positive "services.groups_poll_interval_secs" s.services.pollInterval
    s.checkPath
    discard s.socketAddress
    pure ()
  rw [bind_pure_unit]
  rfl

theorem check_eq_ok_iff : s.check = .ok () ↔ ∀ q ∈ Requirement.all, q.Holds s := by
  simp only [check_eq_forM, forM_eq_ok_iff, Requirement.check_eq_ok_iff]

theorem check_eq_error_iff {e : Error} :
    s.check = .error e ↔ ∃ before q after, Requirement.all = before ++ q :: after ∧
      (∀ p ∈ before, p.Holds s) ∧ ¬q.Holds s ∧ e = q.fault s := by
  simp only [check_eq_forM, forM_eq_error_iff, Requirement.check_eq_ok_iff,
    Requirement.check_eq_error_iff]

end Checks

/-- A path under which a gateway can serve. -/
structure IsRoutePath (path : String) : Prop where
  ne_empty : path ≠ ""
  head : path.toList.head? = some '/'
  last : path.toList.getLast? ≠ some '/'

/-- Settings from which a gateway can be started. -/
structure Ready (s : Settings) : Prop where
  aggregator : ∃ url, s.aggregatorUrl = .ok url
  content : ∃ url, s.contentUrl = .ok url
  membership : ∃ found, s.membershipUrl = .ok found
  address : ∃ a, s.socketAddress = .ok a
  timeout : 1 ≤ s.services.requestTimeout
  pollInterval : 1 ≤ s.services.pollInterval
  path : IsRoutePath s.routePath

section Ready

variable {s : Settings}

theorem isRoutePath_iff :
    IsRoutePath s.routePath ↔ s.server.apiPath.toList.head? = some '/' ∧ s.routePath ≠ "" := by
  have hlist := toList_routePath s
  constructor
  · intro h
    obtain ⟨rest, hrest⟩ := List.rdropWhile_prefix (· = '/') s.server.apiPath.toList
    obtain ⟨more, hmore⟩ := List.head?_eq_some_iff.mp h.head
    rw [← hlist, hmore] at hrest
    exact ⟨by rw [← hrest]; rfl, h.ne_empty⟩
  · rintro ⟨hhead, hne⟩
    have hsome : s.server.apiPath.toList.rdropWhile (· = '/') ≠ [] := by
      rw [← hlist]
      exact mt String.toList_eq_nil_iff.mp hne
    refine ⟨hne, ?_, ?_⟩
    · obtain ⟨rest, hrest⟩ := List.rdropWhile_prefix (· = '/') s.server.apiPath.toList
      rw [← hrest, List.head?_append_of_ne_nil _ hsome] at hhead
      rw [hlist, hhead]
    · rw [hlist, List.getLast?_eq_some_getLast hsome]
      intro hslash
      exact List.rdropWhile_last_not _ _ hsome (decide_eq_true (Option.some.inj hslash))

theorem exists_ok_of_discard {ε α : Type} {x : Except ε α} (h : discard x = .ok ()) :
    ∃ a, x = .ok a := by
  cases x with
  | error e => cases h
  | ok a => exact ⟨a, rfl⟩

/-- Settings pass the check when a gateway can be started from them, and only then. -/
theorem check_eq_ok_iff_ready : s.check = .ok () ↔ s.Ready := by
  rw [check_eq_forM, forM_eq_ok_iff]
  have hpath : s.checkPath = .ok () ↔ IsRoutePath s.routePath := by
    rw [isRoutePath_iff, checkPath]
    split <;> simp [*]
  constructor
  · intro h
    exact {
      aggregator := exists_ok_of_discard (h .aggregator (by decide))
      content := exists_ok_of_discard (h .content (by decide))
      membership := exists_ok_of_discard (h .membership (by decide))
      address := exists_ok_of_discard (h .address (by decide))
      timeout := (Requirement.check_eq_ok_iff s).mp (h .timeout (by decide))
      pollInterval := (Requirement.check_eq_ok_iff s).mp (h .pollInterval (by decide))
      path := hpath.mp (h .path (by decide)) }
  · intro h q _
    cases q with
    | aggregator =>
        obtain ⟨url, hurl⟩ := h.aggregator
        rw [Requirement.check, hurl]
        rfl
    | content =>
        obtain ⟨url, hurl⟩ := h.content
        rw [Requirement.check, hurl]
        rfl
    | membership =>
        obtain ⟨found, hfound⟩ := h.membership
        rw [Requirement.check, hfound]
        rfl
    | timeout => exact (Requirement.check_eq_ok_iff s).mpr h.timeout
    | pollInterval => exact (Requirement.check_eq_ok_iff s).mpr h.pollInterval
    | path => exact hpath.mpr h.path
    | address =>
        obtain ⟨a, ha⟩ := h.address
        rw [Requirement.check, ha]
        rfl

end Ready

/-- An error in a text, as one in the file at a path that holds the text. -/
def Error.inFile (path : String) : Error → Error
  | .unreadable _ message => .unreadable path message
  | .malformed _ message => .malformed path message
  | .invalid field message => .invalid field message

section Loaded

variable {s : Settings} {path text : String} {file : Option ByteArray} {e : Error}

theorem checked_eq_ok_iff {s' : Settings} : s.checked = .ok s' ↔ s' = s ∧ s.check = .ok () := by
  rw [checked]
  cases s.check with
  | error e => exact ⟨fun h => (by cases h), fun h => (by cases h.2)⟩
  | ok _ => exact ⟨fun h => ⟨(Except.ok.inj h).symm, rfl⟩, fun h => congrArg Except.ok h.1.symm⟩

theorem checked_eq_error_iff : s.checked = .error e ↔ s.check = .error e := by
  rw [checked]
  cases s.check with
  | error e' => exact ⟨fun h => (by cases h; rfl), fun h => (by cases h; rfl)⟩
  | ok _ => exact ⟨fun h => (by cases h), fun h => (by cases h)⟩

/-- An error of the check is about a field, wherever the settings were read from. -/
theorem inFile_checked (path : String) : s.checked.mapError (Error.inFile path) = s.checked := by
  cases hchecked : s.checked with
  | ok s' => rfl
  | error e =>
      obtain ⟨_, q, _, -, -, -, rfl⟩ := s.check_eq_error_iff.mp (checked_eq_error_iff.mp hchecked)
      rfl

theorem ofToml_eq_ok_iff : ofToml text = .ok s ↔ written text = .ok s ∧ s.check = .ok () := by
  unfold ofToml
  cases written text with
  | error message => exact ⟨fun h => (by cases h), fun h => (by cases h.1)⟩
  | ok s' =>
      dsimp only
      rw [checked_eq_ok_iff, Except.ok.injEq]
      constructor
      · rintro ⟨rfl, hcheck⟩
        exact ⟨rfl, hcheck⟩
      · rintro ⟨rfl, hcheck⟩
        exact ⟨rfl, hcheck⟩

theorem ofToml_eq_error_iff :
    ofToml text = .error e ↔
      (∃ message, written text = .error message ∧ e = .malformed "<string>" message) ∨
        ∃ s, written text = .ok s ∧ s.check = .error e := by
  unfold ofToml
  cases written text with
  | error message => simp [eq_comm]
  | ok s => simp [checked_eq_error_iff]

theorem ready_of_checked {s' : Settings} (h : s.checked = .ok s') : s'.Ready := by
  obtain ⟨rfl, hcheck⟩ := checked_eq_ok_iff.mp h
  exact check_eq_ok_iff_ready.mp hcheck

theorem ready_of_ofToml (h : ofToml text = .ok s) : s.Ready :=
  check_eq_ok_iff_ready.mp (ofToml_eq_ok_iff.mp h).2

/-- A file that holds a text is read as the text is. -/
theorem ofFile_text (path text : String) :
    ofFile path (some text.toUTF8) = (ofToml text).mapError (Error.inFile path) := by
  have hread : String.fromUTF8? text.toUTF8 = some text := dif_pos text.isValidUTF8
  rw [ofFile, hread]
  unfold ofToml
  dsimp only
  cases written text with
  | error message => rfl
  | ok s => exact (inFile_checked path).symm

theorem ready_of_ofFile (h : ofFile path file = .ok s) : s.Ready := by
  cases file with
  | none => exact ready_of_checked h
  | some bytes =>
      rw [ofFile] at h
      cases hread : String.fromUTF8? bytes with
      | none =>
          rw [hread] at h
          cases h
      | some text =>
          rw [hread] at h
          dsimp only at h
          cases hwritten : written text with
          | error message =>
              rw [hwritten] at h
              cases h
          | ok s' =>
              rw [hwritten] at h
              exact ready_of_checked h

end Loaded

end Settings

namespace Gateway

theorem exists_of_ready {s : Settings} (h : s.Ready) : ∃ g, ofSettings s = .ok g := by
  obtain ⟨aggregator, haggregator⟩ := h.aggregator
  obtain ⟨content, hcontent⟩ := h.content
  obtain ⟨membership, hmembership⟩ := h.membership
  rw [ofSettings, Settings.check_eq_ok_iff_ready.mpr h, haggregator, hcontent, hmembership]
  exact ⟨_, rfl⟩

/-- Starting a gateway meets no error in settings but those of reading them. -/
theorem ofFile_cases (path : String) (file : Option ByteArray) :
    (∃ e, Settings.ofFile path file = .error e ∧ ofFile path file = .error e) ∨
      ∃ s g a, Settings.ofFile path file = .ok s ∧ ofSettings s = .ok g ∧ s.socketAddress = .ok a ∧
        ofFile path file = .ok (s, g, a) := by
  rw [ofFile]
  cases hloaded : Settings.ofFile path file with
  | error e => exact Or.inl ⟨e, rfl, rfl⟩
  | ok s =>
      have hready := Settings.ready_of_ofFile hloaded
      obtain ⟨g, hg⟩ := exists_of_ready hready
      obtain ⟨a, ha⟩ := hready.address
      refine Or.inr ⟨s, g, a, rfl, hg, ha, ?_⟩
      dsimp only [bind, Except.bind]
      rw [hg, ha]
      rfl

theorem launch_eq_refused_iff (h : Host) {path : String} {file : Option ByteArray}
    {e : Settings.Error} : launch h path file = .refused e ↔ Settings.ofFile path file = .error e := by
  rw [launch]
  rcases ofFile_cases path file with ⟨e', hloaded, hended⟩ | ⟨s, g, a, hloaded, -, -, hended⟩
  · rw [hloaded, hended]
    exact ⟨fun heq => by cases heq; rfl, fun heq => by cases heq; rfl⟩
  · rw [hloaded, hended]
    dsimp only
    split
    · exact ⟨fun heq => (by cases heq), fun heq => (by cases heq)⟩
    · exact ⟨fun heq => (by cases heq), fun heq => (by cases heq)⟩

open Settings (Requirement Ready written)

/-- Settings pass their check if they meet all requirements; otherwise the check ends in the error of
the first, in the order in which they are listed, that they do not meet, which names its field. What is
read from a text or a file has passed the check: its URLs and its address can be used, its times are
at least a second, and the path of the gateway begins with a slash, does not end with one and is not
empty. So a gateway can be started from it, and is refused only where reading has failed. A file that
holds a text is read as the text is, with the same settings or the same error, which names the file
where it is about the whole text; a file that is missing stands for the defaults. -/
theorem loaded_settings_are_ready :
    (∀ s : Settings, (s.check = .ok () ↔ ∀ q ∈ Requirement.all, q.Holds s) ∧
      (s.check = .ok () ↔ s.Ready) ∧
      ∀ e, s.check = .error e ↔ ∃ before q after, Requirement.all = before ++ q :: after ∧
        (∀ p ∈ before, p.Holds s) ∧ ¬q.Holds s ∧ e = .invalid q.field (q.message s)) ∧
    (∀ text s, Settings.ofToml text = .ok s → s.Ready) ∧
    (∀ path file s, Settings.ofFile path file = .ok s → s.Ready ∧
      ∃ g a, s.aggregatorUrl = .ok g.aggregator ∧ s.contentUrl = .ok g.content ∧
        s.membershipUrl = .ok g.roster.membership ∧ s.socketAddress = .ok a ∧
        ofFile path file = .ok (s, g, a)) ∧
    (∀ (h : Host) path file e,
      launch h path file = .refused e ↔ Settings.ofFile path file = .error e) ∧
    (∀ path text, Settings.ofFile path (some text.toUTF8)
      = (Settings.ofToml text).mapError (Settings.Error.inFile path)) ∧
    (∀ text s, Settings.ofToml text = .ok s ↔ written text = .ok s ∧ s.check = .ok ()) ∧
    (∀ text e, Settings.ofToml text = .error e ↔
      (∃ message, written text = .error message ∧ e = .malformed "<string>" message) ∨
        ∃ s, written text = .ok s ∧ s.check = .error e) ∧
    (∀ path s, Settings.ofFile path none = .ok s ↔
      s = .default ∧ Settings.default.check = .ok ()) := by
  refine ⟨fun s => ⟨s.check_eq_ok_iff, Settings.check_eq_ok_iff_ready, fun e =>
      s.check_eq_error_iff⟩, fun text s => Settings.ready_of_ofToml, fun path file s hloaded =>
      ⟨Settings.ready_of_ofFile hloaded, ?_⟩, fun h path file e => launch_eq_refused_iff h,
    Settings.ofFile_text, fun text s => Settings.ofToml_eq_ok_iff, fun text e =>
      Settings.ofToml_eq_error_iff, fun path s => Settings.checked_eq_ok_iff⟩
  rcases ofFile_cases path file with ⟨e, hrefused, -⟩ | ⟨s', g, a, hloaded', hg, ha, hstarted⟩
  · cases hrefused.symm.trans hloaded
  · obtain rfl : s' = s := Except.ok.inj (hloaded'.symm.trans hloaded)
    obtain ⟨haggregator, hcontent, hmembership, -⟩ := ofSettings_eq_ok hg
    exact ⟨g, a, haggregator, hcontent, hmembership, ha, hstarted⟩

section Texts

/-- A text that says where the services are. -/
def servicesText : String :=
  "[services]\naggregator_base_endpoint = \"http://[::1]/api\"\n" ++
    "content_base_endpoint = \"http://[::1]\"\n"

/-- The same text with no time left for requests, and with a path that has no segment. -/
def faultyText : String :=
  servicesText ++ "request_timeout_secs = 0\n[server]\napi_prefix = \"//\"\n"

theorem loaded_settings_are_ready_of_services :
    (∃ s g a, Settings.ofToml servicesText = .ok s ∧ s.Ready ∧
      ofFile "config.toml" (some servicesText.toUTF8) = .ok (s, g, a)) ∧
    ∀ h path, launch h path (some faultyText.toUTF8)
      = .refused (.invalid "services.request_timeout_secs" "must be greater than 0") := by
  have hok : (Settings.ofToml servicesText).isOk = true := by decide +kernel
  have hfault : Settings.ofToml faultyText
      = .error (.invalid "services.request_timeout_secs" "must be greater than 0") := by
    decide +kernel
  obtain ⟨-, hready, hfiles, hlaunch, htexts, -⟩ := loaded_settings_are_ready
  have hrefused (path : String) : Settings.ofFile path (some faultyText.toUTF8)
      = .error (.invalid "services.request_timeout_secs" "must be greater than 0") := by
    rw [htexts, hfault]
    rfl
  refine ⟨?_, fun h path => (hlaunch h path _ _).mpr (hrefused path)⟩
  cases hloaded : Settings.ofToml servicesText with
  | error e =>
      rw [hloaded] at hok
      cases hok
  | ok s =>
      obtain ⟨-, g, a, -, -, -, -, hstarted⟩ :=
        hfiles "config.toml" (some servicesText.toUTF8) s (by rw [htexts, hloaded]; rfl)
      exact ⟨s, g, a, rfl, hready servicesText s hloaded, hstarted⟩

end Texts

end Gateway

end ReportGateway
