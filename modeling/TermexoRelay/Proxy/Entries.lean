import TermexoRelay.Proxy.Dispatch
import TermexoRelay.Relay.Origins

/-!
# The two entries of a device

A device is reached under `/d/<deviceId>/` and, where a base is configured, on a host of its own.
What one entry writes into an address the other side reads back, and both are meant to hand the
device the same path.
-/

namespace TermexoRelay

/-! ## One path, two entries -/

section Paths

variable {deviceId p : String}

theorem parseDevicePath_pathBase_append (hid : '/' ∉ deviceId.toList) :
    parseDevicePath (pathBase deviceId ++ p) =
      if deviceId = "" then none else some (.resource deviceId p) := by
  have hprefix : Text.stripPrefix DEVICE_PATH_PREFIX.toList (pathBase deviceId ++ p).toList =
      some (deviceId.toList ++ '/' :: p.toList) := by
    simp [Text.stripPrefix, pathBase, DEVICE_PATH_PREFIX]
  have hsplit : Text.splitOnce '/' (deviceId.toList ++ '/' :: p.toList) =
      some (deviceId.toList, p.toList) := Text.splitOnce_eq_some.mpr ⟨rfl, hid⟩
  rw [parseDevicePath, hprefix, Option.bind_some, hsplit]
  simp

theorem routeDeviceHost_of_path {routing : HostRouting} {request : IncomingRequest}
    (hhost : request.hostHeader.bind routing.deviceFromHost = some deviceId)
    (hpath : request.path = "/" ++ p) :
    request.routeDeviceHost routing =
      some ⟨deviceId, String.ofList (p.toList.dropWhile (· = '/')), .subdomain⟩ := by
  have hslash : ("/" ++ p).toList.dropWhile (fun c => decide (c = '/')) =
      p.toList.dropWhile (fun c => decide (c = '/')) := by
    rw [String.toList_append]
    exact List.dropWhile_cons_of_pos rfl
  rw [IncomingRequest.routeDeviceHost, hhost, Option.map_some, hpath, hslash]

theorem ofList_dropWhile_slash_eq_iff :
    String.ofList (p.toList.dropWhile (· = '/')) = p ↔ p.toList.head? ≠ some '/' := by
  rw [← String.toList_inj, String.toList_ofList]
  cases p.toList with
  | nil => simp
  | cons c rest =>
      by_cases hc : c = '/'
      · have hshort : (rest.dropWhile (· = '/')).length ≤ rest.length :=
          (List.dropWhile_sublist _).length_le
        simp only [hc, decide_true, List.dropWhile_cons_of_pos, List.head?_cons, ne_eq,
          not_true_eq_false, iff_false]
        intro heq
        have hlength := congrArg List.length heq
        rw [List.length_cons] at hlength
        omega
      · simp [hc]

end Paths

/-- Both entries hand the device the path they were given, and one without a leading slash, exactly
when it has none to begin with. -/
theorem entries_agree_iff (routing : HostRouting) (request : IncomingRequest)
    (deviceId p : String) (hid : '/' ∉ deviceId.toList)
    (hhost : request.hostHeader.bind routing.deviceFromHost = some deviceId)
    (hpath : request.path = "/" ++ p) :
    (∃ rest, parseDevicePath (pathBase deviceId ++ p) = some (.resource deviceId rest) ∧
        request.routeDeviceHost routing = some ⟨deviceId, rest, .subdomain⟩ ∧
        rest = p ∧ rest.toList.head? ≠ some '/') ↔
      deviceId ≠ "" ∧ p.toList.head? ≠ some '/' := by
  rw [parseDevicePath_pathBase_append hid, routeDeviceHost_of_path hhost hpath]
  constructor
  · rintro ⟨rest, hparsed, -, rfl, hslash⟩
    refine ⟨?_, hslash⟩
    rintro rfl
    cases hparsed
  · rintro ⟨hne, hslash⟩
    rw [if_neg hne, ofList_dropWhile_slash_eq_iff.mpr hslash]
    exact ⟨p, rfl, rfl, rfl, hslash⟩

def subdomainRequest (path : String) : IncomingRequest where
  headers := HeaderMap.empty.insert .host
    ⟨utf8 "abcdefghijklmnopqrstuvwxyz.relay.example.com",
      List.all_eq_true.mp (by decide +kernel)⟩
  authority := none
  path := path
  query := none

theorem entries_agree_asset :
    parseDevicePath "/d/abcdefghijklmnopqrstuvwxyz/assets/main.js" =
        some (.resource "abcdefghijklmnopqrstuvwxyz" "assets/main.js") ∧
      (subdomainRequest "/assets/main.js").routeDeviceHost .wildcard =
        some ⟨"abcdefghijklmnopqrstuvwxyz", "assets/main.js", .subdomain⟩ := by
  obtain ⟨rest, hparsed, hrouted, rfl, -⟩ := (entries_agree_iff .wildcard
    (subdomainRequest "/assets/main.js") "abcdefghijklmnopqrstuvwxyz" "assets/main.js"
    (by decide) (by decide) (by decide)).mpr (by decide)
  exact ⟨hparsed, hrouted⟩

/-- An empty segment in front stays in the path form and is lost on the subdomain. -/
theorem entries_differ_empty_segment :
    ¬ ∀ (routing : HostRouting) (request : IncomingRequest) (deviceId p : String),
      '/' ∉ deviceId.toList → request.hostHeader.bind routing.deviceFromHost = some deviceId →
      request.path = "/" ++ p →
      ∃ rest, parseDevicePath (pathBase deviceId ++ p) = some (.resource deviceId rest) ∧
        request.routeDeviceHost routing = some ⟨deviceId, rest, .subdomain⟩ ∧
        rest = p ∧ rest.toList.head? ≠ some '/' := by
  intro h
  obtain ⟨rest, -, -, rfl, hslash⟩ := h .wildcard (subdomainRequest "//index.html")
    "abcdefghijklmnopqrstuvwxyz" "/index.html" (by decide) (by decide)
    (by decide)
  exact hslash (by decide)

/-! ## Reading an advertised address back -/

def afterScheme (url : List Char) : List Char := (url.dropWhile (· ≠ ':')).drop 3

def urlAuthority (url : List Char) : List Char := (afterScheme url).takeWhile fun c => !endsHost c

def urlPath (url : List Char) : List Char :=
  ((afterScheme url).dropWhile fun c => !endsHost c).takeWhile fun c => c ≠ '?' && c ≠ '#'

/-- A way to write an authority: its name in any letter case, with any number of dots after it, and
with its own port, none, or another one. -/
def Respells (authority host : List Char) : Prop :=
  ∃ name dots port, host = name ++ dots ++ port ∧
    name.map Char.toLower = (authority.takeWhile (· ≠ ':')).map Char.toLower ∧
    (∀ c ∈ dots, c = '.') ∧
    (port = [] ∨ port = authority.dropWhile (· ≠ ':') ∨
      ∃ digits, port = ':' :: digits ∧ ∀ c ∈ digits, c.isDigit = true)

/-- What is left of a host without its port and its trailing dots. -/
def NamePart (host name : List Char) : Prop :=
  ∃ dots port, host = name ++ dots ++ port ∧ (∀ c ∈ dots, c = '.') ∧
    (port = [] ∨ ∃ digits, port = ':' :: digits ∧ ':' ∉ digits)

/-- What the protocol crate takes for a device id: a label in lower case, as it was written. -/
structure ReadsLabels (parseDeviceId : List Char → Option String) : Prop where
  text : ∀ {label deviceId}, parseDeviceId label = some deviceId → deviceId.toList = label
  label : ∀ {label deviceId}, parseDeviceId label = some deviceId →
    label ≠ [] ∧ ∀ c ∈ label, isLabelChar c = true

/-- The port a relay tells does not end in a bracket with white space behind it. -/
def PublicUrl.PortReadable (url : PublicUrl) : Prop :=
  (url.portSuffix.toList.rdropWhile Text.isWhitespace).getLast? ≠ some ']'

section Names

variable {lowercase : Text.Lowercase} {name port host : List Char}

def isPlain (c : Char) : Bool :=
  c.toNat < 128 && !Text.isWhitespace c && c ≠ ':' && c ≠ ']'

theorem toNat_lt_of_isLabelChar {c : Char} (h : isLabelChar c = true ∨ c = '.') :
    c.toNat < 128 := by
  rcases h with h | rfl
  · simp only [isLabelChar, Bool.or_eq_true, decide_eq_true_eq] at h
    rcases h with (hlower | hdigit) | rfl
    · have hle : c.val ≤ 'z'.val := of_decide_eq_true ((Bool.and_eq_true_iff.mp hlower).2)
      exact Text.toNat_lt_of_le hle (by decide)
    · have hle : c.val ≤ '9'.val := of_decide_eq_true ((Bool.and_eq_true_iff.mp hdigit).2)
      exact Text.toNat_lt_of_le hle (by decide)
    · decide
  · decide

theorem isPlain_of_toLower {c : Char} (h : isLabelChar c.toLower = true ∨ c.toLower = '.') :
    isPlain c = true := by
  have hascii : c.toNat < 128 := by
    by_cases hupper : c.val ≥ 'A'.val ∧ c.val ≤ 'Z'.val
    · exact Text.toNat_lt_of_le hupper.2 (by decide)
    · have hsame : c.toLower = c := dif_neg hupper
      exact toNat_lt_of_isLabelChar (hsame ▸ h)
  exact Text.forall_ascii
    (P := fun c => isLabelChar c.toLower = true ∨ c.toLower = '.' → isPlain c = true)
    (by decide) hascii h

theorem toLower_of_isLabelChar {c : Char} (h : isLabelChar c = true ∨ c = '.') : c.toLower = c :=
  Text.forall_ascii (P := fun c => isLabelChar c = true ∨ c = '.' → c.toLower = c) (by decide)
    (toNat_lt_of_isLabelChar h) h

theorem beforeLast_append {separator : Char} {before after : List Char} (h : separator ∉ after) :
    beforeLast separator (before ++ separator :: after) = some before := by
  rw [beforeLast, if_pos (List.mem_append_right _ List.mem_cons_self),
    Text.dropLast_rdropWhile_ne h]

theorem isPlain_iff {c : Char} : isPlain c = true ↔
    c.toNat < 128 ∧ Text.isWhitespace c = false ∧ c ≠ ':' ∧ c ≠ ']' := by
  simp [isPlain, and_assoc]

theorem normalizeHost_append (hname : ∀ c ∈ name, isPlain c = true) (hne : name ≠ [])
    (hport : port = [] ∨ ∃ digits, port = ':' :: digits ∧ ':' ∉ digits)
    (hread : (port.rdropWhile Text.isWhitespace).getLast? ≠ some ']') :
    normalizeHost lowercase (name ++ port) = lowercase.apply (name.rdropWhile (· = '.')) := by
  have hspace : ∀ c ∈ name, Text.isWhitespace c = false := fun c hc =>
    (isPlain_iff.mp (hname c hc)).2.1
  have hcolon : ':' ∉ name := fun hc => (isPlain_iff.mp (hname ':' hc)).2.2.1 rfl
  rcases hport with rfl | ⟨digits, rfl, hdigits⟩
  · have hnone : beforeLast ':' name = none := if_neg hcolon
    rw [List.append_nil, normalizeHost, Text.trim_eq_self hspace, hnone]
  · have hblank : Text.isWhitespace ':' = false := by decide
    have htrim : Text.trim Text.isWhitespace (name ++ ':' :: digits) =
        name ++ ':' :: digits.rdropWhile Text.isWhitespace := by
      obtain ⟨c, rest, rfl⟩ := List.exists_cons_of_ne_nil hne
      have hfirst : ((c :: rest) ++ ':' :: digits).dropWhile Text.isWhitespace =
          (c :: rest) ++ ':' :: digits :=
        List.dropWhile_cons_of_neg (by simp [hspace c List.mem_cons_self])
      rw [Text.trim, hfirst, Text.rdropWhile_append_cons _ _ _ hblank]
    have hcut : ':' ∉ digits.rdropWhile Text.isWhitespace := fun hc =>
      hdigits ((List.rdropWhile_prefix _ _).mem hc)
    have hlast : (name ++ ':' :: digits.rdropWhile Text.isWhitespace).getLast? ≠ some ']' := by
      have hport := Text.rdropWhile_append_cons _ [] digits hblank
      rw [List.nil_append, List.nil_append] at hport
      rwa [List.getLast?_append_of_ne_nil _ (List.cons_ne_nil _ _), ← hport]
    rw [normalizeHost, htrim, beforeLast_append hcut]
    simp only [if_neg hlast]

theorem exists_namePart (lowercase : Text.Lowercase) (host : List Char) :
    ∃ name, NamePart (Text.trim Text.isWhitespace host) name ∧
      normalizeHost lowercase host = lowercase.apply name := by
  have hcut : ∀ text port : List Char, Text.trim Text.isWhitespace host = text ++ port →
      (port = [] ∨ ∃ digits, port = ':' :: digits ∧ ':' ∉ digits) →
      NamePart (Text.trim Text.isWhitespace host) (text.rdropWhile (· = '.')) := by
    intro text port htrim hport
    refine ⟨text.rtakeWhile (· = '.'), port, ?_, fun c hc => ?_, hport⟩
    · rw [List.rdropWhile_append_rtakeWhile, htrim]
    · simpa using List.mem_rtakeWhile_imp hc
  have hwhole : NamePart (Text.trim Text.isWhitespace host)
      ((Text.trim Text.isWhitespace host).rdropWhile (· = '.')) :=
    hcut _ [] (List.append_nil _).symm (.inl rfl)
  rw [normalizeHost]
  by_cases hcolon : ':' ∈ Text.trim Text.isWhitespace host
  · obtain ⟨before, after, htrim, hafter⟩ := Text.exists_eq_append_cons hcolon
    have hbefore : beforeLast ':' (Text.trim Text.isWhitespace host) = some before := by
      rw [htrim, beforeLast_append hafter]
    simp only [hbefore]
    split
    · exact ⟨_, hwhole, rfl⟩
    · exact ⟨_, hcut before (':' :: after) htrim (.inr ⟨after, rfl, hafter⟩), rfl⟩
  · have hnone : beforeLast ':' (Text.trim Text.isWhitespace host) = none := if_neg hcolon
    simp only [hnone]
    exact ⟨_, hwhole, rfl⟩

theorem labelOf_eq_some {base : SubdomainBase} {label : List Char} :
    base.labelOf host = some label ↔
      host = label ++ '.' :: base.host.toList ∧ label ≠ [] ∧ '.' ∉ label := by
  rw [SubdomainBase.labelOf, Option.filter_eq_some_iff, Option.bind_eq_some_iff, decide_eq_true_eq]
  refine and_congr_left fun _ => ?_
  constructor
  · rintro ⟨rest, hrest, hlabel⟩
    rw [Text.stripSuffix_eq_some] at hrest hlabel
    rw [hrest, hlabel, List.append_assoc, List.singleton_append]
  · rintro rfl
    exact ⟨label ++ ['.'], Text.stripSuffix_eq_some.mpr (by simp), Text.stripSuffix_eq_some.mpr rfl⟩

end Names

section Resolving

variable {routing : HostRouting} {base : SubdomainBase} {deviceId : String}

def deviceName (deviceId : String) (base : SubdomainBase) : List Char :=
  deviceId.toList ++ '.' :: base.host.toList

theorem isLabelChar_of_mem_deviceName (hbase : base.Normal)
    (hlabel : ∀ c ∈ deviceId.toList, isLabelChar c = true) {c : Char}
    (hc : c ∈ deviceName deviceId base) : isLabelChar c = true ∨ c = '.' := by
  rcases List.mem_append.mp hc with hc | hc
  · exact .inl (hlabel c hc)
  · rcases List.mem_cons.mp hc with rfl | hc
    · exact .inr rfl
    · exact hbase.chars c hc

theorem rdropWhile_dots_append (hbase : base.Normal) {name dots : List Char}
    (hname : name.map Char.toLower = deviceName deviceId base) (hdots : ∀ c ∈ dots, c = '.') :
    (name ++ dots).rdropWhile (fun c => decide (c = '.')) = name := by
  obtain ⟨last, hlast, hlabel⟩ := hbase.last
  have hends : (name.map Char.toLower).getLast? = some last := by
    rw [hname, deviceName, List.getLast?_append_of_ne_nil _ (List.cons_ne_nil _ _),
      List.getLast?_cons, hlast]
    rfl
  rw [List.getLast?_map, Option.map_eq_some_iff] at hends
  obtain ⟨c, hc, hlower⟩ := hends
  obtain ⟨init, rfl⟩ := List.getLast?_eq_some_iff.mp hc
  have hdot : decide (c = '.') = false := by
    rw [decide_eq_false_iff_not]
    rintro rfl
    rw [← hlower] at hlabel
    exact absurd hlabel (by decide)
  have hnil : dots.rdropWhile (fun c => decide (c = '.')) = [] :=
    List.rdropWhile_eq_nil_iff.mpr fun c hc => decide_eq_true (hdots c hc)
  rw [List.append_assoc, List.singleton_append,
    Text.rdropWhile_append_cons (fun c => decide (c = '.')) _ _ hdot, hnil]

theorem deviceFromHost_append (hbase : routing.addressing.subdomainBase = some base)
    (hnormal : base.Normal) (hread : ReadsLabels routing.parseDeviceId)
    (hid : routing.parseDeviceId deviceId.toList = some deviceId) {name dots port : List Char}
    (hname : name.map Char.toLower = deviceName deviceId base) (hdots : ∀ c ∈ dots, c = '.')
    (hport : port = [] ∨ ∃ digits, port = ':' :: digits ∧ ':' ∉ digits)
    (hends : (port.rdropWhile Text.isWhitespace).getLast? ≠ some ']') :
    routing.deviceFromHost (name ++ dots ++ port) = some deviceId := by
  obtain ⟨hne, hlabel⟩ := hread.label hid
  have hplain : ∀ c ∈ name ++ dots, isPlain c = true := by
    intro c hc
    rcases List.mem_append.mp hc with hc | hc
    · refine isPlain_of_toLower (isLabelChar_of_mem_deviceName hnormal hlabel ?_)
      rw [← hname]
      exact List.mem_map_of_mem hc
    · rw [hdots c hc]
      decide
  have hnil : name ≠ [] := by
    rintro rfl
    cases hcase : deviceId.toList with
    | nil => exact hne hcase
    | cons c rest => simp [deviceName, hcase] at hname
  have hlast : (name ++ dots).rdropWhile (fun c => decide (c = '.')) = name :=
    rdropWhile_dots_append hnormal hname hdots
  have hascii : routing.lowercase.apply name = name.map Char.toLower :=
    routing.lowercase.ascii name fun c hc =>
      (isPlain_iff.mp (hplain c (List.mem_append_left _ hc))).1
  have hdot : '.' ∉ deviceId.toList := fun hc => absurd (hlabel '.' hc) (by decide)
  have hof : base.labelOf (deviceName deviceId base) = some deviceId.toList :=
    labelOf_eq_some.mpr ⟨rfl, hne, hdot⟩
  rw [HostRouting.deviceFromHost, hbase, Option.bind_some,
    normalizeHost_append hplain (by simp [hnil]) hport hends, hlast, hascii, hname, hof,
    Option.bind_some, hid]

theorem namePart_of_deviceFromHost (hread : ReadsLabels routing.parseDeviceId) {host : List Char}
    (h : routing.deviceFromHost host = some deviceId) :
    ∃ base, routing.addressing.subdomainBase = some base ∧
      ∃ name, NamePart (Text.trim Text.isWhitespace host) name ∧
        routing.lowercase.apply name = deviceName deviceId base := by
  obtain ⟨base, hbase, h⟩ := Option.bind_eq_some_iff.mp h
  obtain ⟨label, hlabel, hparse⟩ := Option.bind_eq_some_iff.mp h
  obtain ⟨name, hname, hnormal⟩ := exists_namePart routing.lowercase host
  rw [hnormal, labelOf_eq_some] at hlabel
  refine ⟨base, hbase, name, hname, ?_⟩
  rw [hlabel.1, deviceName, hread.text hparse]

theorem afterScheme_append (secure : Bool) (rest : List Char) :
    afterScheme ((scheme secure).toList ++ ':' :: '/' :: '/' :: rest) = rest := by
  have hscheme : (scheme secure).toList.all (fun c => decide (c ≠ ':')) = true := by
    cases secure with
    | false => decide
    | true => decide
  rw [afterScheme, List.dropWhile_append_of_pos (List.all_eq_true.mp hscheme),
    List.dropWhile_cons_of_neg (by decide)]
  rfl

theorem endsHost_of_isLabelChar {c : Char} (h : isLabelChar c = true ∨ c = '.') :
    endsHost c = false :=
  endsHost_of_pred (P := fun c => isLabelChar c = true ∨ c = '.') (by decide) (by decide)
    (by decide) h

theorem takeWhile_host {host rest : List Char} (h : ∀ c ∈ host, endsHost c = false) :
    (host ++ '/' :: rest).takeWhile (fun c => !endsHost c) = host ∧
      (host ++ '/' :: rest).dropWhile (fun c => !endsHost c) = '/' :: rest := by
  have hhost : ∀ c ∈ host, (!endsHost c) = true := fun c hc => by rw [h c hc]; rfl
  have htake : ('/' :: rest).takeWhile (fun c => !endsHost c) = [] := rfl
  have hdrop : ('/' :: rest).dropWhile (fun c => !endsHost c) = '/' :: rest := rfl
  constructor
  · rw [List.takeWhile_append_of_pos hhost, htake, List.append_nil]
  · rw [List.dropWhile_append_of_pos hhost, hdrop]

theorem takeWhile_port {name port : List Char} (hname : ':' ∉ name)
    (hport : port = [] ∨ ∃ digits, port = ':' :: digits) :
    (name ++ port).takeWhile (fun c => decide (c ≠ ':')) = name ∧
      (name ++ port).dropWhile (fun c => decide (c ≠ ':')) = port := by
  have hall : ∀ c ∈ name, decide (c ≠ ':') = true := fun c hc =>
    decide_eq_true fun heq => hname (heq ▸ hc)
  rw [List.takeWhile_append_of_pos hall, List.dropWhile_append_of_pos hall]
  rcases hport with rfl | ⟨digits, rfl⟩
  · exact ⟨List.append_nil name, rfl⟩
  · exact ⟨List.append_nil name, rfl⟩

theorem getLast?_rdropWhile_ne {text : List Char} {c : Char} (h : c ∉ text) :
    (text.rdropWhile Text.isWhitespace).getLast? ≠ some c := fun hlast =>
  h ((List.rdropWhile_prefix _ _).mem (List.mem_of_getLast? hlast))

theorem deviceFromHost_of_respells (hbase : routing.addressing.subdomainBase = some base)
    (hnormal : base.Normal) (hread : ReadsLabels routing.parseDeviceId)
    (hid : routing.parseDeviceId deviceId.toList = some deviceId)
    (hport : routing.addressing.publicUrl.PortReadable) {host : List Char}
    (h : Respells (deviceName deviceId base ++ routing.addressing.publicUrl.portSuffix.toList)
      host) :
    routing.deviceFromHost host = some deviceId := by
  have hchars : ∀ c ∈ deviceName deviceId base, isLabelChar c = true ∨ c = '.' := fun c hc =>
    isLabelChar_of_mem_deviceName hnormal (hread.label hid).2 hc
  have hcolon : ':' ∉ deviceName deviceId base := fun hc => absurd (hchars ':' hc) (by decide)
  have hown : routing.addressing.publicUrl.portSuffix.toList = [] ∨ ∃ digits,
      routing.addressing.publicUrl.portSuffix.toList = ':' :: digits ∧ ':' ∉ digits :=
    routing.addressing.publicUrl.portSuffix_cases.imp_right
      fun ⟨digits, hdigits, _, heq⟩ => ⟨digits, heq, hdigits⟩
  obtain ⟨htake, hdrop⟩ := takeWhile_port hcolon
    (hown.imp_right fun ⟨digits, heq, _⟩ => ⟨digits, heq⟩)
  have hlower : (deviceName deviceId base).map Char.toLower = deviceName deviceId base :=
    (List.map_congr_left fun c hc => toLower_of_isLabelChar (hchars c hc)).trans (List.map_id' _)
  obtain ⟨name, dots, port, rfl, hname, hdots, hports⟩ := h
  rw [htake, hlower] at hname
  rw [hdrop] at hports
  rcases hports with rfl | rfl | ⟨digits, rfl, hdigits⟩
  · exact deviceFromHost_append hbase hnormal hread hid hname hdots (.inl rfl)
      (getLast?_rdropWhile_ne List.not_mem_nil)
  · exact deviceFromHost_append hbase hnormal hread hid hname hdots hown hport
  · have hcut : ':' ∉ digits := fun hc => absurd (hdigits ':' hc) (by decide)
    have hbracket : ']' ∉ ':' :: digits := by
      rw [List.mem_cons, not_or]
      exact ⟨by decide, fun hc => absurd (hdigits ']' hc) (by decide)⟩
    exact deviceFromHost_append hbase hnormal hread hid hname hdots (.inr ⟨digits, rfl, hcut⟩)
      (getLast?_rdropWhile_ne hbracket)

theorem urlAuthority_deviceUrl (hbase : routing.addressing.subdomainBase = some base)
    (hurl : routing.addressing.publicUrl.Configured)
    (hname : ∀ c ∈ deviceName deviceId base, isLabelChar c = true ∨ c = '.') :
    urlAuthority (routing.addressing.deviceUrl deviceId).toList =
      deviceName deviceId base ++ routing.addressing.publicUrl.portSuffix.toList := by
  have htext : (routing.addressing.deviceUrl deviceId).toList =
      (scheme routing.addressing.publicUrl.secure).toList ++ ':' :: '/' :: '/' ::
        ((deviceName deviceId base ++ routing.addressing.publicUrl.portSuffix.toList) ++
          '/' :: []) := by
    simp [DeviceAddressing.deviceUrl, hbase, deviceName]
  rw [urlAuthority, htext, afterScheme_append]
  refine (takeWhile_host fun c hc => ?_).1
  rcases List.mem_append.mp hc with hc | hc
  · exact endsHost_of_isLabelChar (hname c hc)
  · rcases routing.addressing.publicUrl.portSuffix_cases with hnone | ⟨port, -, hmem, hport⟩
    · rw [hnone] at hc
      cases hc
    · rw [hport] at hc
      rcases List.mem_cons.mp hc with rfl | hc
      · decide
      · exact hurl.plain c (hmem c hc)

theorem urlPath_deviceUrl (hbase : routing.addressing.subdomainBase = none)
    (hurl : routing.addressing.publicUrl.Configured)
    (hid : ∀ c ∈ deviceId.toList, isLabelChar c = true) :
    urlPath (routing.addressing.deviceUrl deviceId).toList = (pathBase deviceId).toList := by
  have horigin : routing.addressing.publicUrl.origin.toList =
      (scheme routing.addressing.publicUrl.secure).toList ++ ':' :: '/' :: '/' ::
        routing.addressing.publicUrl.host.toList := by
    rw [routing.addressing.publicUrl.origin_eq]
    cases routing.addressing.publicUrl.secure with
    | false => simp [HTTP_SCHEME, scheme, HTTP_PROTO]
    | true => simp [HTTPS_SCHEME, scheme, HTTPS_PROTO]
  have htext : (routing.addressing.deviceUrl deviceId).toList =
      (scheme routing.addressing.publicUrl.secure).toList ++ ':' :: '/' :: '/' ::
        (routing.addressing.publicUrl.host.toList ++ '/' :: 'd' :: '/' ::
          (deviceId.toList ++ ['/'])) := by
    rw [DeviceAddressing.deviceUrl, hbase, String.toList_append, horigin, toList_pathBase]
    simp
  have hpath : ∀ c ∈ '/' :: 'd' :: '/' :: (deviceId.toList ++ ['/']),
      (decide (c ≠ '?') && decide (c ≠ '#')) = true := by
    intro c hc
    have hplain : c = '/' ∨ c = 'd' ∨ isLabelChar c = true := by
      simp only [List.mem_cons, List.mem_append, List.not_mem_nil, or_false] at hc
      rcases hc with rfl | rfl | rfl | hc | rfl
      · exact .inl rfl
      · exact .inr (.inl rfl)
      · exact .inl rfl
      · exact .inr (.inr (hid c hc))
      · exact .inl rfl
    rw [Bool.and_eq_true, decide_eq_true_eq, decide_eq_true_eq]
    constructor
    · rintro rfl
      exact absurd hplain (by decide)
    · rintro rfl
      exact absurd hplain (by decide)
  rw [urlPath, htext, afterScheme_append, (takeWhile_host hurl.plain).2, toList_pathBase]
  exact List.takeWhile_eq_self_iff.mpr hpath

end Resolving

/-- An advertised address leads back to its device: in every spelling of the host where a base is
configured and the port can be told from the host, and under its path otherwise. Only such hosts, up
to white space around them, are read as a device. -/
theorem deviceUrl_resolves (routing : HostRouting) (hread : ReadsLabels routing.parseDeviceId)
    (hurl : routing.addressing.publicUrl.Configured)
    (hbases : ∀ base, routing.addressing.subdomainBase = some base →
      ∃ value, SubdomainBase.fromStr routing.lowercase value = .ok base) :
    (∀ deviceId, routing.parseDeviceId deviceId.toList = some deviceId →
      (∀ base, routing.addressing.subdomainBase = some base →
        routing.addressing.publicUrl.PortReadable →
        ∀ host, Respells (urlAuthority (routing.addressing.deviceUrl deviceId).toList) host →
          routing.deviceFromHost host = some deviceId) ∧
      (routing.addressing.subdomainBase = none →
        parseDevicePath (String.ofList (urlPath (routing.addressing.deviceUrl deviceId).toList)) =
          some (.resource deviceId ""))) ∧
    ∀ host deviceId, routing.deviceFromHost host = some deviceId →
      ∃ base, routing.addressing.subdomainBase = some base ∧
        ∃ name, NamePart (Text.trim Text.isWhitespace host) name ∧
          routing.lowercase.apply name = deviceName deviceId base := by
  refine ⟨fun deviceId hid => ?_, fun host deviceId h => namePart_of_deviceFromHost hread h⟩
  obtain ⟨hne, hlabel⟩ := hread.label hid
  constructor
  · intro base hbase hport host hspelled
    obtain ⟨value, hvalue⟩ := hbases base hbase
    have hnormal := SubdomainBase.normal_of_fromStr hvalue
    rw [urlAuthority_deviceUrl hbase hurl fun c hc =>
      isLabelChar_of_mem_deviceName hnormal hlabel hc] at hspelled
    exact deviceFromHost_of_respells hbase hnormal hread hid hport hspelled
  · intro hbase
    have hslash : '/' ∉ deviceId.toList := fun hc => absurd (hlabel '/' hc) (by decide)
    have hempty : deviceId ≠ "" := by
      rintro rfl
      exact hne rfl
    have hparsed := parseDevicePath_pathBase_append (p := "") hslash
    rw [if_neg hempty] at hparsed
    rw [urlPath_deviceUrl hbase hurl hlabel, String.ofList_toList, ← hparsed, String.append_empty]

namespace HostRouting

theorem readsLabels_wildcard : ReadsLabels wildcard.parseDeviceId := by
  have hparse : ∀ {label deviceId}, wildcard.parseDeviceId label = some deviceId →
      label = "abcdefghijklmnopqrstuvwxyz".toList ∧ String.ofList label = deviceId := by
    intro label deviceId h
    obtain ⟨heq, hid⟩ := Option.ite_none_right_eq_some.mp h
    exact ⟨heq, Option.some.inj hid⟩
  constructor
  · intro label deviceId h
    rw [← (hparse h).2, String.toList_ofList]
  · intro label deviceId h
    rw [(hparse h).1]
    exact ⟨by decide, List.all_eq_true.mp (by decide)⟩

theorem configured_wildcard : wildcard.addressing.publicUrl.Configured :=
  @PublicUrl.Configured.given "https://relay.example.com" _ rfl

theorem fromStr_wildcard (base : SubdomainBase)
    (h : wildcard.addressing.subdomainBase = some base) :
    ∃ value, SubdomainBase.fromStr wildcard.lowercase value = .ok base := by
  cases h
  exact ⟨"Relay.Example.com.", rfl⟩

end HostRouting

theorem deviceUrl_resolves_upper_case :
    HostRouting.wildcard.deviceFromHost
        ("ABCDEFGHIJKLMNOPQRSTUVWXYZ.Relay.Example.com".toList ++ ".".toList ++ ":8443".toList) =
      some "abcdefghijklmnopqrstuvwxyz" := by
  have hresolves := (deviceUrl_resolves .wildcard HostRouting.readsLabels_wildcard
    HostRouting.configured_wildcard HostRouting.fromStr_wildcard).1 "abcdefghijklmnopqrstuvwxyz"
    (by decide)
  refine hresolves.1 _ rfl (by unfold PublicUrl.PortReadable; decide) _ ⟨_, _, _, rfl, ?_⟩
  exact ⟨by decide, by simp, .inr (.inr ⟨"8443".toList, by decide,
    List.all_eq_true.mp (by decide)⟩)⟩

/-- White space around a host is not part of its name, and the host is read all the same. -/
theorem deviceFromHost_padded :
    ¬ ∀ (routing : HostRouting), ReadsLabels routing.parseDeviceId →
      routing.addressing.publicUrl.Configured →
      (∀ base, routing.addressing.subdomainBase = some base →
        ∃ value, SubdomainBase.fromStr routing.lowercase value = .ok base) →
      ∀ host deviceId, routing.deviceFromHost host = some deviceId →
        ∃ base, routing.addressing.subdomainBase = some base ∧
          ∃ name, NamePart host name ∧
            routing.lowercase.apply name = deviceName deviceId base := by
  intro h
  obtain ⟨base, -, name, ⟨dots, port, hhost, -⟩, hname⟩ := h .wildcard
    HostRouting.readsLabels_wildcard HostRouting.configured_wildcard HostRouting.fromStr_wildcard
    " abcdefghijklmnopqrstuvwxyz.relay.example.com".toList "abcdefghijklmnopqrstuvwxyz"
    (by decide)
  cases name with
  | nil => cases hname
  | cons c rest =>
      have hfirst : ' ' = c := (List.cons.inj hhost).1
      have hlower : c.toLower = 'a' := (List.cons.inj hname).1
      rw [← hfirst] at hlower
      exact absurd hlower (by decide)

end TermexoRelay
