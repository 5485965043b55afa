import TermexoRelay.Database.Standing

/-!
# What each query does to the enrollment codes

A code row is inserted, cancelled or burned, and none is ever deleted. Cancelling and burning test
and set the row in one statement, so a row is settled at most once.
-/

namespace TermexoRelay

namespace EnrollmentRecord

/-- Neither used nor cancelled. -/
def unsettled (row : EnrollmentRecord) : Bool := row.usedAt.isNone && row.cancelledAt.isNone

theorem unsettled_of_status {row : EnrollmentRecord} {now : Int} (h : row.status now = .pending) :
    row.unsettled = true := by
  unfold status at h
  split at h
  · cases h
  · next hused =>
      split at h
      · cases h
      · next hcancelled =>
          rw [unsettled, Option.not_isSome_iff_eq_none.mp hused,
            Option.not_isSome_iff_eq_none.mp hcancelled]
          rfl

/-- What a row keeps for good: its digest, and how it was settled. -/
structure Outlives (row row' : EnrollmentRecord) : Prop where
  codeHash : row'.codeHash = row.codeHash
  ownerUserId : row'.ownerUserId = row.ownerUserId
  used : row.usedAt.isSome = true →
    row'.usedAt.isSome = true ∧ row'.usedByDeviceId = row.usedByDeviceId
  cancelled : row.cancelledAt.isSome = true → row'.cancelledAt.isSome = true

theorem Outlives.refl (row : EnrollmentRecord) : row.Outlives row :=
  ⟨rfl, rfl, fun h => ⟨h, rfl⟩, fun h => h⟩

end EnrollmentRecord

namespace Database

/-- The schema's constraint on code digests. -/
def CodesDistinct (db : Database) : Prop :=
  ∀ id id' row row', db.enrollmentCodes.find id = some row →
    db.enrollmentCodes.find id' = some row' → row.codeHash = row'.codeHash → id = id'

/-- No code is both used and cancelled. -/
def SettledOnce (db : Database) : Prop :=
  ∀ id row, db.enrollmentCodes.find id = some row →
    ¬ (row.usedAt.isSome = true ∧ row.cancelledAt.isSome = true)

/-- Code rows stay, with what they keep for good. -/
def CodesPersist (db db' : Database) : Prop :=
  ∀ id row, db.enrollmentCodes.find id = some row →
    ∃ row', db'.enrollmentCodes.find id = some row' ∧ row.Outlives row'

theorem CodesPersist.refl (db : Database) : CodesPersist db db :=
  fun _ row hrow => ⟨row, hrow, .refl row⟩

section Settle

variable {db db' : Database} {fault : Fault} {id deviceId : String} {now : Int} {changed : Bool}

/-- What test-and-set does to the rows: one unsettled row is rewritten, or nothing changes. -/
structure Settles (db db' : Database) (id : String) (f : EnrollmentRecord → EnrollmentRecord)
    (changed : Bool) : Prop where
  standing : db'.standing = db.standing
  users : db'.users = db.users
  changed : changed = true ↔ ∃ row, db.enrollmentCodes.find id = some row ∧ row.unsettled = true
  rows : ∀ k, db'.enrollmentCodes.find k = (db.enrollmentCodes.find k).map fun row =>
    if k = id ∧ row.unsettled = true then f row else row

theorem settles_settleEnrollment {f : EnrollmentRecord → EnrollmentRecord}
    {hf : ∀ row, (f row).id = row.id} :
    Settles db (db.settleEnrollment id f hf).1 id f (db.settleEnrollment id f hf).2 := by
  have hopen : ∀ k row, db.enrollmentCodes.find k = some row →
      (row.id = id && row.usedAt.isNone && row.cancelledAt.isNone) =
        (decide (k = id) && row.unsettled) := by
    intro k row hrow
    have hkey : row.id = k := Rows.key_of_find hrow
    rw [hkey, EnrollmentRecord.unsettled, Bool.and_assoc]
  refine ⟨rfl, rfl, ?_, fun k => ?_⟩
  · simp only [settleEnrollment, Rows.anyRow_iff]
    constructor
    · rintro ⟨k, row, hrow, hok⟩
      rw [hopen k row hrow, Bool.and_eq_true, decide_eq_true_eq] at hok
      exact ⟨row, hok.1 ▸ hrow, hok.2⟩
    · rintro ⟨row, hrow, hunsettled⟩
      exact ⟨id, row, hrow, by rw [hopen id row hrow, hunsettled]; simp⟩
  · simp only [settleEnrollment, Rows.find_update]
    cases hrow : db.enrollmentCodes.find k with
    | none => rfl
    | some row =>
        rw [Option.map_some, Option.map_some, hopen k row hrow]
        simp only [Bool.and_eq_true, decide_eq_true_eq]

theorem markEnrollmentUsed_eq_ok
    (h : db.markEnrollmentUsed fault id deviceId now = .ok (db', changed)) :
    Settles db db' id
      (fun row => { row with usedAt := some now, usedByDeviceId := some deviceId }) changed := by
  obtain ⟨-, h⟩ := Fault.guard_eq_ok.mp h
  obtain ⟨rfl, rfl⟩ := Prod.mk.inj (Except.ok.inj h)
  exact settles_settleEnrollment

theorem cancelEnrollment_eq_ok (h : db.cancelEnrollment fault id now = .ok (db', changed)) :
    Settles db db' id (fun row => { row with cancelledAt := some now }) changed := by
  obtain ⟨-, h⟩ := Fault.guard_eq_ok.mp h
  obtain ⟨rfl, rfl⟩ := Prod.mk.inj (Except.ok.inj h)
  exact settles_settleEnrollment

variable {f : EnrollmentRecord → EnrollmentRecord}

theorem Settles.row (h : Settles db db' id f true) :
    ∃ row, db.enrollmentCodes.find id = some row ∧ row.unsettled = true ∧
      db'.enrollmentCodes.find id = some (f row) := by
  obtain ⟨row, hrow, hunsettled⟩ := h.changed.mp rfl
  refine ⟨row, hrow, hunsettled, ?_⟩
  rw [h.rows, hrow, Option.map_some, if_pos ⟨rfl, hunsettled⟩]

theorem Settles.persist (h : Settles db db' id f changed)
    (hf : ∀ row : EnrollmentRecord, row.unsettled = true → row.Outlives (f row)) :
    CodesPersist db db' := by
  intro k row hrow
  refine ⟨_, by rw [h.rows, hrow, Option.map_some], ?_⟩
  split
  · next hk => exact hf row hk.2
  · exact .refl row

theorem Settles.distinct (h : Settles db db' id f changed)
    (hf : ∀ row, (f row).codeHash = row.codeHash) (hdb : db.CodesDistinct) :
    db'.CodesDistinct := by
  have hhash : ∀ k row', db'.enrollmentCodes.find k = some row' →
      ∃ row, db.enrollmentCodes.find k = some row ∧ row.codeHash = row'.codeHash := by
    intro k row' hrow'
    rw [h.rows, Option.map_eq_some_iff] at hrow'
    obtain ⟨row, hrow, rfl⟩ := hrow'
    refine ⟨row, hrow, ?_⟩
    split
    · exact (hf row).symm
    · rfl
  intro k k' row row' hrow hrow' heq
  obtain ⟨old, hold, hsame⟩ := hhash k row hrow
  obtain ⟨old', hold', hsame'⟩ := hhash k' row' hrow'
  exact hdb k k' old old' hold hold' (hsame.trans (heq.trans hsame'.symm))

theorem Settles.settledOnce (h : Settles db db' id f changed)
    (hf : ∀ row : EnrollmentRecord, row.unsettled = true →
      ¬ ((f row).usedAt.isSome = true ∧ (f row).cancelledAt.isSome = true))
    (hdb : db.SettledOnce) : db'.SettledOnce := by
  intro k row' hrow'
  rw [h.rows, Option.map_eq_some_iff] at hrow'
  obtain ⟨row, hrow, rfl⟩ := hrow'
  split
  · next hk => exact hf row hk.2
  · exact hdb k row hrow

end Settle

section Create

variable {db db' : Database} {fault : Fault} {identifier : Option String}
  {enrollment : NewEnrollment} {now : Int}

theorem createEnrollment_eq_ok
    (h : db.createEnrollment fault identifier enrollment now = .ok db') :
    ∃ id, db.enrollmentCodes.find id = none ∧
      (∀ k row, db.enrollmentCodes.find k = some row → row.codeHash ≠ enrollment.codeHash) ∧
      ∀ k, db'.enrollmentCodes.find k =
        if k = id then some (newEnrollment id enrollment now) else db.enrollmentCodes.find k := by
  obtain ⟨hfree, id, rows, hinsert, rfl⟩ := createEnrollment_inserts h
  obtain ⟨hnone, hfind⟩ := Rows.insert_eq_some hinsert
  refine ⟨id, hnone, ?_, hfind⟩
  intro k row hrow heq
  rw [Rows.anyRow_eq_false] at hfree
  simpa [heq] using hfree k row hrow

end Create

end Database

end TermexoRelay
