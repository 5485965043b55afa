import TermexoRelay.Database.Records
import TermexoRelay.Library.Paging
import Mathlib.Algebra.Order.Group.Int

/-!
# The audit log and its pages

Rows are only ever added to the audit log, each under a larger id than all before it. A page is
read by a cursor and an object filter.
-/

namespace TermexoRelay

def MAX_AUDIT_PAGE : Nat := 500

def DEFAULT_AUDIT_PAGE : Nat := 100

/-- A row of the log, as it is stored and, without the empty texts, as the console is given it. -/
structure AuditRecord where
  id : Int
  occurredAt : Int
  actorKind : String
  actorId : Option String
  action : String
  targetKind : Option String
  targetId : Option String
  ip : Option String
  detail : Option String
deriving DecidableEq, Repr

def readAuditRow (row : AuditRecord) : AuditRecord :=
  { row with
    actorId := optionalText row.actorId
    targetKind := optionalText row.targetKind
    targetId := optionalText row.targetId
    ip := optionalText row.ip
    detail := optionalText row.detail }

structure AuditQuery where
  limit : Nat
  /-- Only events older than this id. -/
  beforeId : Option Int
  targetId : Option String
deriving DecidableEq, Repr

structure AuditLog where
  rows : List AuditRecord
  descending : Paging.Descending AuditRecord.id rows

structure AuditParameters where
  limit : Option Nat
  before : Option Int
  targetId : Option String
deriving DecidableEq, Repr

def AuditParameters.query (parameters : AuditParameters) : AuditQuery where
  limit := min (parameters.limit.getD DEFAULT_AUDIT_PAGE) MAX_AUDIT_PAGE
  beforeId := parameters.before
  targetId := (parameters.targetId.map Text.trimString).filter fun id => id ≠ ""

namespace AuditLog

/-- `write_audit`: `AUTOINCREMENT` gives a row a larger id than any before it. -/
def write (row : AuditRecord) (log : AuditLog) : Option AuditLog :=
  if h : ∀ other ∈ log.rows, other.id < row.id then
    some ⟨row :: log.rows, List.pairwise_cons.mpr ⟨h, log.descending⟩⟩
  else none

def listAudit (log : AuditLog) (query : AuditQuery) : List AuditRecord :=
  ((log.rows.filter fun row =>
      query.beforeId.all (fun before => decide (row.id < before)) &&
        query.targetId.all fun target => decide (row.targetId = some target)).take
    (max 1 (min query.limit MAX_AUDIT_PAGE))).map readAuditRow

/-- The list as the console is given it. -/
def list (log : AuditLog) (parameters : AuditParameters) : List AuditRecord :=
  log.listAudit parameters.query

end AuditLog

def auditEvents (target : Option String) (rows : List AuditRecord) : List AuditRecord :=
  (rows.filter fun row => target.all fun target => decide (row.targetId = some target)).map
    readAuditRow

section Events

variable {target : Option String} {rows rows' : List AuditRecord} {log log' : AuditLog}
  {row : AuditRecord}

theorem AuditLog.list_eq (log : AuditLog) (parameters : AuditParameters) :
    log.list parameters = Paging.page AuditRecord.id parameters.before
      (max 1 (min parameters.query.limit MAX_AUDIT_PAGE))
      (auditEvents parameters.query.targetId log.rows) := by
  have hid : ∀ row, (readAuditRow row).id = row.id := fun _ => rfl
  rw [auditEvents, Paging.page_map hid, Paging.page, List.filter_filter]
  rfl

theorem AuditLog.write_eq_some (h : log.write row = some log') :
    log'.rows = row :: log.rows ∧ ∀ other ∈ log.rows, other.id < row.id := by
  unfold AuditLog.write at h
  split at h
  · next hnew =>
      cases h
      exact ⟨rfl, hnew⟩
  · cases h

theorem AuditLog.suffix_of_write (h : log.write row = some log') : log.rows <:+ log'.rows := by
  rw [(AuditLog.write_eq_some h).1]
  exact List.suffix_cons row log.rows

theorem AuditLog.list_write (h : log.write row = some log') {parameters : AuditParameters}
    {before : Int} (hbefore : parameters.before = some before)
    (hold : ∃ other ∈ log.rows, other.id = before) :
    log'.list parameters = log.list parameters := by
  obtain ⟨hrows, hnew⟩ := AuditLog.write_eq_some h
  obtain ⟨other, hother, rfl⟩ := hold
  have hle : other.id ≤ (readAuditRow row).id := (hnew other hother).le
  rw [AuditLog.list_eq, AuditLog.list_eq, hbefore, hrows, auditEvents, List.filter_cons]
  split
  · rw [List.map_cons, Paging.page_cons_of_le hle, auditEvents]
  · rfl

end Events

end TermexoRelay
