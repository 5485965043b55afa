import TermexoRelay.Database.Audit
import TermexoRelay.Library.Run

/-!
# The audit page of the console

The page is loaded, filtered and extended by requests that overlap: the relay reads the log for each
of them at some time after it was sent, rows are added all the while, and the responses come back in
any order, or not at all.
-/

namespace TermexoRelay

open Transition

def PAGE_SIZE : Nat := 100

/-- What `String.prototype.trim` takes off: not quite what the relay does. -/
def isScriptSpace (c : Char) : Bool := c.val = 0xFEFF || (Text.isWhitespace c && c.val ≠ 0x85)

def scriptTrim (s : String) : String := String.ofList (Text.trim isScriptSpace s.toList)

/-- The one white space that the relay takes off and the page leaves. -/
def NEXT_LINE : Char := '\u0085'

structure AuditPage where
  events : List AuditRecord
  loading : Bool
  loadingMore : Bool
  error : String
  targetDraft : String
  targetId : String
  hasMore : Bool
deriving DecidableEq, Repr

namespace AuditPage

def new : AuditPage where
  events := []
  loading := true
  loadingMore := false
  error := ""
  targetDraft := ""
  targetId := ""
  hasMore := false

def applyFilter (page : AuditPage) : AuditPage :=
  { page with targetId := scriptTrim page.targetDraft }

def clearFilter (page : AuditPage) : AuditPage := { page with targetDraft := "", targetId := "" }

def replace (batch : List AuditRecord) (page : AuditPage) : AuditPage :=
  { page with events := batch, hasMore := batch.length = PAGE_SIZE, loading := false }

def append (batch : List AuditRecord) (page : AuditPage) : AuditPage :=
  { page with
    events := page.events ++ batch, hasMore := batch.length = PAGE_SIZE, loadingMore := false }

end AuditPage

/-- A request for events, with the filter, and the cursor, it was sent with. The accounts and
devices `load` asks for as well only name what is shown. -/
inductive AuditRequest where
  | load (target : String)
  | loadMore (before : Int) (target : String)
deriving DecidableEq, Repr

namespace AuditRequest

def parameters : AuditRequest → AuditParameters
  | .load target => ⟨some PAGE_SIZE, none, if target = "" then none else some target⟩
  | .loadMore before target =>
      ⟨some PAGE_SIZE, some before, if target = "" then none else some target⟩

def fail (error : String) (page : AuditPage) : AuditRequest → AuditPage
  | .load _ => { page with error, loading := false }
  | .loadMore _ _ => { page with error, loadingMore := false }

end AuditRequest

/-- The events among the rows that match a filter: those about the object that was typed, or all of
them when nothing was. -/
def matchingEvents (filter : String) (rows : List AuditRecord) : List AuditRecord :=
  (rows.filter fun row => filter = "" || row.targetId = some filter).map readAuditRow

structure AuditAnswer where
  events : List AuditRecord
  rows : List AuditRecord

/-- A request that the page has not heard of again, answered by the relay or not. The page keeps no
record of the filter it had when it asked, nor of the oldest row it showed then. -/
structure AuditExchange where
  request : AuditRequest
  filter : String
  oldest : Option Int
  answer : Option AuditAnswer

/-- The load that what is shown began with: the filter when the page asked, and the rows when the
relay read them. -/
structure ShownRun where
  filter : String
  rows : List AuditRecord

/-- The page, its requests in the order they were sent, and the log. `shown` is there as long as
every batch since that of its load continued what was shown; the page keeps no such record. -/
structure AuditConsole where
  page : AuditPage
  requests : List AuditExchange
  log : AuditLog
  shown : Option ShownRun

inductive AuditAction where
  | type (draft : String)
  | reload
  | applyFilter
  | clearFilter
  | loadMore
  | write (row : AuditRecord)
  | answer (index : Nat)
  | deliver (index : Nat)
  | fail (index : Nat) (error : String)

namespace AuditConsole

def cursor (s : AuditConsole) : Option Int := s.page.events.getLast?.map AuditRecord.id

def ask (request : AuditRequest) (s : AuditConsole) : AuditConsole :=
  { s with requests := s.requests ++ [⟨request, s.page.targetId, s.cursor, none⟩] }

def load (s : AuditConsole) : AuditConsole :=
  ask (.load s.page.targetId) { s with page := { s.page with loading := true, error := "" } }

def init (log : AuditLog) : AuditConsole := load ⟨.new, [], log, none⟩

def loadMore (s : AuditConsole) : AuditConsole :=
  match s.page.events.getLast? with
  | none => s
  | some oldest =>
      if s.page.loadingMore then s
      else
        ask (.loadMore oldest.id s.page.targetId)
          { s with page := { s.page with loadingMore := true } }

def step (s : AuditConsole) : AuditAction → Option AuditConsole
  | .type draft => some { s with page := { s.page with targetDraft := draft } }
  | .reload => some s.load
  | .applyFilter => some (load { s with page := s.page.applyFilter })
  | .clearFilter => some (load { s with page := s.page.clearFilter })
  | .loadMore => some s.loadMore
  | .write row => (s.log.write row).map fun log => { s with log }
  | .answer index =>
      match s.requests[index]? with
      | some ⟨request, filter, oldest, none⟩ =>
          let answer := ⟨s.log.list request.parameters, s.log.rows⟩
          some { s with requests := s.requests.set index ⟨request, filter, oldest, some answer⟩ }
      | _ => none
  | .deliver index =>
      match s.requests[index]? with
      | some ⟨.load _, filter, _, some answer⟩ =>
          some
            { s with
              page := s.page.replace answer.events
              requests := s.requests.eraseIdx index
              shown := some ⟨filter, answer.rows⟩ }
      | some ⟨.loadMore _ _, filter, oldest, some answer⟩ =>
          some
            { s with
              page := s.page.append answer.events
              requests := s.requests.eraseIdx index
              shown := s.shown.filter fun run => run.filter = filter && s.cursor = oldest }
      | _ => none
  | .fail index error =>
      match s.requests[index]? with
      | some exchange =>
          some
            { s with
              page := exchange.request.fail error s.page
              requests := s.requests.eraseIdx index }
      | none => none

def loads : AuditAction → Bool
  | .reload => true
  | .applyFilter => true
  | .clearFilter => true
  | _ => false

inductive StepCases (s : AuditConsole) : AuditAction → AuditConsole → Prop
  | typed {draft : String} :
      StepCases s (.type draft) { s with page := { s.page with targetDraft := draft } }
  | loaded {action : AuditAction} {page : AuditPage} (haction : loads action = true)
      (hevents : page.events = s.page.events) (hmore : page.hasMore = s.page.hasMore)
      (hfilter : page.targetId = s.page.targetId ∨
        ∃ draft : String, page.targetId = scriptTrim draft) :
      StepCases s action (load { s with page })
  | ignored : StepCases s .loadMore s
  | loadedMore {oldest : AuditRecord} (h : s.page.events.getLast? = some oldest) :
      StepCases s .loadMore
        (ask (.loadMore oldest.id s.page.targetId)
          { s with page := { s.page with loadingMore := true } })
  | written {row : AuditRecord} {log : AuditLog} (h : s.log.write row = some log) :
      StepCases s (.write row) { s with log }
  | answered {index : Nat} {request : AuditRequest} {filter : String} {oldest : Option Int}
      (h : s.requests[index]? = some ⟨request, filter, oldest, none⟩) :
      StepCases s (.answer index)
        { s with
          requests := s.requests.set index
            ⟨request, filter, oldest, some ⟨s.log.list request.parameters, s.log.rows⟩⟩ }
  | delivered {index : Nat} {target filter : String} {oldest : Option Int} {answer : AuditAnswer}
      (h : s.requests[index]? = some ⟨.load target, filter, oldest, some answer⟩) :
      StepCases s (.deliver index)
        { s with
          page := s.page.replace answer.events
          requests := s.requests.eraseIdx index
          shown := some ⟨filter, answer.rows⟩ }
  | continued {index : Nat} {before : Int} {target filter : String} {oldest : Option Int}
      {answer : AuditAnswer}
      (h : s.requests[index]? = some ⟨.loadMore before target, filter, oldest, some answer⟩) :
      StepCases s (.deliver index)
        { s with
          page := s.page.append answer.events
          requests := s.requests.eraseIdx index
          shown := s.shown.filter fun run => run.filter = filter && s.cursor = oldest }
  | failed {index : Nat} {exchange : AuditExchange} {error : String}
      (h : s.requests[index]? = some exchange) :
      StepCases s (.fail index error)
        { s with
          page := exchange.request.fail error s.page
          requests := s.requests.eraseIdx index }

theorem step_eq_some {s s' : AuditConsole} {action : AuditAction}
    (h : step s action = some s') : StepCases s action s' := by
  cases action with
  | type draft =>
      cases h
      exact .typed
  | reload =>
      cases h
      exact .loaded rfl rfl rfl (.inl rfl)
  | applyFilter =>
      cases h
      exact .loaded rfl rfl rfl (.inr ⟨s.page.targetDraft, rfl⟩)
  | clearFilter =>
      cases h
      exact .loaded rfl rfl rfl (.inr ⟨"", rfl⟩)
  | loadMore =>
      obtain rfl := Option.some.inj h
      unfold loadMore
      split
      · exact .ignored
      · next holdest =>
          split
          · exact .ignored
          · exact .loadedMore holdest
  | write row =>
      obtain ⟨log, hlog, rfl⟩ := Option.map_eq_some_iff.mp h
      exact .written hlog
  | answer index =>
      simp only [step] at h
      split at h
      · next hrequest =>
          cases h
          exact .answered hrequest
      · cases h
  | deliver index =>
      simp only [step] at h
      split at h
      · next hrequest =>
          cases h
          exact .delivered hrequest
      · next hrequest =>
          cases h
          exact .continued hrequest
      · cases h
  | fail index error =>
      simp only [step] at h
      split at h
      · next hrequest =>
          cases h
          exact .failed hrequest
      · cases h

end AuditConsole

/-! ## What is shown -/

theorem list_parameters (log : AuditLog) (request : AuditRequest) :
    log.list request.parameters =
      Paging.page AuditRecord.id request.parameters.before PAGE_SIZE
        (auditEvents request.parameters.query.targetId log.rows) := by
  rw [AuditLog.list_eq]
  cases request <;> rfl

/-- The relay takes the filter for what was typed: neither end of it is a next line. -/
def endsPlainly (filter : String) : Bool :=
  filter.toList.head? ≠ some NEXT_LINE && filter.toList.getLast? ≠ some NEXT_LINE

/-- The page has taken its white space off both ends. -/
def IsTrimmed (filter : String) : Prop := Text.trim isScriptSpace filter.toList = filter.toList

theorem trimString_of_endsPlainly {filter : String} (htrimmed : IsTrimmed filter)
    (hplain : endsPlainly filter = true) : Text.trimString filter = filter := by
  have hspace : ∀ {c : Char}, isScriptSpace c = false → c ≠ NEXT_LINE →
      Text.isWhitespace c = false := by
    intro c hc hne
    have hval : c.val ≠ 0x85 := fun h => hne (Char.ext h)
    simp only [isScriptSpace, Bool.or_eq_false_iff] at hc
    simpa [hval] using hc.2
  simp only [endsPlainly, Bool.and_eq_true, decide_eq_true_eq] at hplain
  rw [IsTrimmed, Text.trim_eq_self_iff_ends] at htrimmed
  have htrim : Text.trim Text.isWhitespace filter.toList = filter.toList := by
    rw [Text.trim_eq_self_iff_ends]
    constructor
    · intro c hc
      exact hspace (htrimmed.1 c hc) fun h => hplain.1 (h ▸ hc)
    · intro c hc
      exact hspace (htrimmed.2 c hc) fun h => hplain.2 (h ▸ hc)
  rw [Text.trimString, htrim, String.ofList_toList]

theorem targetId_query {parameters : AuditParameters} {filter : String}
    (hsent : parameters.targetId = if filter = "" then none else some filter)
    (htrimmed : IsTrimmed filter) (hplain : endsPlainly filter = true) :
    parameters.query.targetId = if filter = "" then none else some filter := by
  rw [AuditParameters.query, hsent]
  by_cases hempty : filter = ""
  · simp [hempty]
  · simp [hempty, trimString_of_endsPlainly htrimmed hplain]

theorem auditEvents_eq_matchingEvents (filter : String) (rows : List AuditRecord) :
    auditEvents (if filter = "" then none else some filter) rows = matchingEvents filter rows := by
  rw [auditEvents, matchingEvents]
  by_cases hempty : filter = ""
  · simp [hempty]
  · simp [hempty]

theorem matchingEvents_suffix {filter : String} {rows rows' : List AuditRecord}
    (h : rows <:+ rows') : matchingEvents filter rows <:+ matchingEvents filter rows' :=
  (h.filter _).map readAuditRow

theorem descending_matchingEvents {filter : String} {rows : List AuditRecord}
    (h : Paging.Descending AuditRecord.id rows) :
    Paging.Descending AuditRecord.id (matchingEvents filter rows) :=
  (h.sublist List.filter_sublist).map fun _ => rfl

/-- The request is for the filter and behind the row the page had when it asked, and the answer is
what the relay had. -/
structure AuditExchange.Sound (log : AuditLog) (exchange : AuditExchange) : Prop where
  filter : exchange.request.parameters.targetId =
    if exchange.filter = "" then none else some exchange.filter
  trimmed : IsTrimmed exchange.filter
  before : ∀ before, exchange.request.parameters.before = some before →
    exchange.oldest = some before ∧ ∃ row ∈ log.rows, row.id = before
  first : exchange.request.parameters.before = none → ∀ answer, exchange.answer = some answer →
    answer.rows <:+ log.rows ∧ answer.events =
      (auditEvents exchange.request.parameters.query.targetId answer.rows).take PAGE_SIZE
  older : ∀ before, exchange.request.parameters.before = some before →
    ∀ answer, exchange.answer = some answer →
      answer.events = Paging.page AuditRecord.id (some before) PAGE_SIZE
        (auditEvents exchange.request.parameters.query.targetId log.rows)

/-- The batches of a run, put together, are the newest events that matched its filter when its load
was read, and all of them unless more are offered. -/
structure ShownRun.Sound (log : AuditLog) (page : AuditPage) (run : ShownRun) : Prop where
  rows : run.rows <:+ log.rows
  newest : page.events <+: matchingEvents run.filter run.rows
  exhausted : page.hasMore = false → page.events = matchingEvents run.filter run.rows

section Invariant

variable {s s' : AuditConsole} {action : AuditAction} {log log' : AuditLog} {row : AuditRecord}
  {target filter : String} {oldest : Option Int} {exchange : AuditExchange} {page : AuditPage}
  {run : ShownRun}

theorem AuditExchange.Sound.write (h : exchange.Sound log) (hwrite : log.write row = some log') :
    exchange.Sound log' := by
  have hsuffix := AuditLog.suffix_of_write hwrite
  refine ⟨h.filter, h.trimmed, fun before hbefore => ?_, fun hnone answer hanswer => ?_,
    fun before hbefore answer hanswer => ?_⟩
  · obtain ⟨holdest, other, hother, hid⟩ := h.before before hbefore
    exact ⟨holdest, other, hsuffix.mem hother, hid⟩
  · obtain ⟨hrows, hevents⟩ := h.first hnone answer hanswer
    exact ⟨hrows.trans hsuffix, hevents⟩
  · obtain ⟨-, hrow⟩ := h.before before hbefore
    have hlist := AuditLog.list_write hwrite hbefore hrow
    rw [list_parameters, list_parameters, hbefore] at hlist
    exact (h.older before hbefore answer hanswer).trans hlist.symm

theorem AuditExchange.Sound.answered {request : AuditRequest}
    (h : AuditExchange.Sound log ⟨request, filter, oldest, none⟩) :
    AuditExchange.Sound log
      ⟨request, filter, oldest, some ⟨log.list request.parameters, log.rows⟩⟩ := by
  refine ⟨h.filter, h.trimmed, h.before, fun hnone answer hanswer => ?_,
    fun before hbefore answer hanswer => ?_⟩
  · cases hanswer
    refine ⟨List.suffix_refl _, ?_⟩
    rw [list_parameters, hnone]
    exact Paging.page_none
  · cases hanswer
    rw [list_parameters, hbefore]

/-- The relay reads the log for the filter the page had. -/
theorem AuditExchange.Sound.matching (h : exchange.Sound log)
    (hplain : endsPlainly exchange.filter = true) (rows : List AuditRecord) :
    auditEvents exchange.request.parameters.query.targetId rows =
      matchingEvents exchange.filter rows := by
  rw [targetId_query h.filter h.trimmed hplain, auditEvents_eq_matchingEvents]

/-- A batch asked for with the filter of the run, behind the last event shown, continues it. -/
theorem ShownRun.Sound.append {before : Int} {answer : AuditAnswer} (h : run.Sound log page)
    (hplain : endsPlainly run.filter = true)
    (hanswered :
      AuditExchange.Sound log ⟨.loadMore before target, run.filter, oldest, some answer⟩)
    (hcursor : page.events.getLast?.map AuditRecord.id = oldest) :
    run.Sound log (page.append answer.events) := by
  have holdest : oldest = some before := (hanswered.before before rfl).1
  rw [holdest] at hcursor
  obtain ⟨last, hlast, rfl⟩ := Option.map_eq_some_iff.mp hcursor
  have hdescending : Paging.Descending AuditRecord.id (matchingEvents run.filter log.rows) :=
    descending_matchingEvents log.descending
  have hsuffix : matchingEvents run.filter run.rows <:+ matchingEvents run.filter log.rows :=
    matchingEvents_suffix h.rows
  have hmem : last ∈ matchingEvents run.filter run.rows :=
    h.newest.mem (List.mem_of_getLast? hlast)
  have hevents : answer.events = Paging.page AuditRecord.id (some last.id) PAGE_SIZE
      (matchingEvents run.filter run.rows) := by
    rw [hanswered.older last.id rfl answer rfl, hanswered.matching hplain]
    exact Paging.page_of_suffix hdescending hsuffix hmem
  have hrun : Paging.Descending AuditRecord.id (matchingEvents run.filter run.rows) :=
    hdescending.sublist hsuffix.sublist
  refine ⟨h.rows, ?_, fun hexhausted => ?_⟩
  · change page.events ++ answer.events <+: _
    rw [hevents]
    exact Paging.append_page hrun h.newest hlast
  · have hlength : answer.events.length ≠ PAGE_SIZE := of_decide_eq_false hexhausted
    have hle : answer.events.length ≤ PAGE_SIZE := hevents ▸ Paging.length_page_le _
    change page.events ++ answer.events = _
    rw [hevents] at hlength hle ⊢
    exact Paging.append_short_page hrun h.newest hlast (Nat.lt_of_le_of_ne hle hlength)

end Invariant

/-! ## Responses in order -/

namespace AuditConsole

def loadsFor (filter : String) (exchange : AuditExchange) : Bool :=
  match exchange.request with
  | .load _ => exchange.filter = filter
  | .loadMore _ _ => false

/-- A load for the filter is among the requests. -/
def underWay (filter : String) (requests : List AuditExchange) : Bool :=
  requests.any (loadsFor filter)

/-- The batches shown began with a load for the current filter, which the relay reads as it was
typed. -/
def showsFilter (s : AuditConsole) : Bool :=
  s.shown.any fun run => run.filter = s.page.targetId && endsPlainly run.filter

/-- What is shown is a run for the current filter, or a load that replaces it by one is under
way. -/
def settled (s : AuditConsole) : Bool := s.showsFilter || underWay s.page.targetId s.requests

/-- No response is shown that was asked for with another filter, with one that the relay reads
differently or behind another end of the list, and no load fails whose batch is needed, unless a
load for the current filter is still under way. -/
def inOrder (s : AuditConsole) : AuditAction → Bool
  | .deliver index =>
      match s.requests[index]? with
      | some ⟨.load _, filter, _, _⟩ =>
          (filter = s.page.targetId && endsPlainly filter) ||
            underWay s.page.targetId (s.requests.eraseIdx index)
      | some ⟨.loadMore _ _, filter, oldest, _⟩ =>
          (filter = s.page.targetId && s.cursor = oldest) || underWay s.page.targetId s.requests
      | none => true
  | .fail index _ =>
      match s.requests[index]? with
      | some ⟨.load _, _, _, _⟩ =>
          s.showsFilter || underWay s.page.targetId (s.requests.eraseIdx index)
      | _ => true
  | _ => true

section Order

variable {s s' : AuditConsole} {action : AuditAction} {requests : List AuditExchange}
  {target filter : String} {oldest : Option Int} {index : Nat}

end Order

end AuditConsole

open AuditConsole

end TermexoRelay
