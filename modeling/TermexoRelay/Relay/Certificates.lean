import TermexoRelay.Http.Headers

/-!
# The self-signed certificate on disk

A relay reads its certificate and key at start-up and generates a pair when there is none. Whatever
keeps one of the two files from being read counts as none, and the pair is written one file after
the other.
-/

namespace TermexoRelay

structure PemMaterial where
  certificate : Bytes
  privateKey : Bytes
deriving DecidableEq

/-- The files of the TLS directory, as far as they are present. -/
structure MaterialFiles where
  certificate : Option Bytes
  privateKey : Option Bytes
deriving DecidableEq

/-- How writing a file ends. A failing write leaves the file as it was, or the first bytes of what
was to be written. -/
inductive WriteOutcome where
  | written
  | notOpened (error : String)
  | cutOff (error : String) (length : Nat)
deriving DecidableEq

namespace WriteOutcome

def error : WriteOutcome → Option String
  | written => none
  | notOpened error => some error
  | cutOff error _ => some error

/-- What the file holds afterwards. -/
def leaves (outcome : WriteOutcome) (before : Option Bytes) (content : Bytes) : Option Bytes :=
  match outcome with
  | written => some content
  | notOpened _ => before
  | cutOff _ length => some (content.dropLast.take length)

end WriteOutcome

structure StartConditions where
  directory : String
  directoryError : Option String
  certificateReadable : Bool
  keyReadable : Bool
  generated : Except String PemMaterial
  certificateWrite : WriteOutcome
  keyWrite : WriteOutcome

namespace MaterialFiles

def read (conditions : StartConditions) (files : MaterialFiles) : Option PemMaterial := do
  let certificate ← if conditions.certificateReadable then files.certificate else none
  let privateKey ← if conditions.keyReadable then files.privateKey else none
  return ⟨certificate, privateKey⟩

/-- The key is only written once the certificate is. -/
def write (conditions : StartConditions) (material : PemMaterial) (files : MaterialFiles) :
    MaterialFiles × Except String Unit :=
  let certificate :=
    conditions.certificateWrite.leaves files.certificate material.certificate
  match conditions.certificateWrite.error with
  | some error => (⟨certificate, files.privateKey⟩, .error ("无法保存自签名证书：" ++ error))
  | none =>
      let privateKey := conditions.keyWrite.leaves files.privateKey material.privateKey
      match conditions.keyWrite.error with
      | some error => (⟨certificate, privateKey⟩, .error ("无法保存自签名证书：" ++ error))
      | none => (⟨certificate, privateKey⟩, .ok ())

end MaterialFiles

/-- Reuses the persisted certificate, generating a new one when none can be read. Narrowing the
permissions changes no content and cannot fail. -/
def loadOrGenerate (conditions : StartConditions) (files : MaterialFiles) :
    MaterialFiles × Except String PemMaterial :=
  match conditions.directoryError with
  | some error =>
      (files, .error ("无法创建证书目录 " ++ conditions.directory ++ "：" ++ error))
  | none =>
      match files.read conditions with
      | some material => (files, .ok material)
      | none =>
          match conditions.generated with
          | .error error => (files, .error ("无法生成自签名证书：" ++ error))
          | .ok material =>
              let (files, outcome) := files.write conditions material
              (files, outcome.map fun () => material)

/-- A certificate that is there stays, and the files are untouched or a pair that was generated
together. -/
structure KeepsMaterial (conditions : StartConditions) (files after : MaterialFiles) : Prop where
  certificate : files.certificate.isSome = true → after.certificate = files.certificate
  pair : after = files ∨ ∃ material, conditions.generated = .ok material ∧
    after = ⟨some material.certificate, some material.privateKey⟩

/-- A generated pair is none that was on disk before, and not empty. -/
structure FreshMaterial (files : MaterialFiles) (material : PemMaterial) : Prop where
  certificate : files.certificate ≠ some material.certificate
  privateKey : files.privateKey ≠ some material.privateKey
  certificate_ne : material.certificate ≠ []
  privateKey_ne : material.privateKey ≠ []

/-- The starts after which the files are as they should be. -/
def StartsSafely (conditions : StartConditions) (files : MaterialFiles) : Prop :=
  conditions.directoryError.isSome = true ∨ (files.read conditions).isSome = true ∨
    ∀ material, conditions.generated = .ok material →
      (conditions.certificateWrite.error.isSome = true ∧
        conditions.certificateWrite.leaves files.certificate material.certificate =
          files.certificate) ∨
      (files.certificate = none ∧ conditions.certificateWrite = .written ∧
        conditions.keyWrite = .written)

section Outcomes

variable {conditions : StartConditions} {files : MaterialFiles} {material : PemMaterial}

theorem WriteOutcome.leaves_ne {outcome : WriteOutcome} {before : Option Bytes} {content : Bytes}
    (hcontent : content ≠ []) (hbefore : before ≠ some content)
    (herror : outcome ≠ .written) : outcome.leaves before content ≠ some content := by
  cases outcome with
  | written => exact absurd rfl herror
  | notOpened error => exact hbefore
  | cutOff error length =>
      intro h
      have hlength := congrArg List.length (Option.some.inj h)
      have hpos : 0 < content.length := List.length_pos_iff.mpr hcontent
      rw [List.length_take, List.length_dropLast] at hlength
      omega

theorem WriteOutcome.error_eq_none {outcome : WriteOutcome} :
    outcome.error = none ↔ outcome = .written := by
  cases outcome <;> simp [error]

theorem keepsMaterial_refl (conditions : StartConditions) (files : MaterialFiles) :
    KeepsMaterial conditions files files :=
  ⟨fun _ => rfl, .inl rfl⟩

theorem loadOrGenerate_generated (hdirectory : conditions.directoryError = none)
    (hread : files.read conditions = none) (hgenerated : conditions.generated = .ok material) :
    (loadOrGenerate conditions files).1 =
      ⟨conditions.certificateWrite.leaves files.certificate material.certificate,
        if conditions.certificateWrite = .written then
          conditions.keyWrite.leaves files.privateKey material.privateKey
        else files.privateKey⟩ := by
  simp only [loadOrGenerate, hdirectory, hread, hgenerated, MaterialFiles.write]
  cases hcertificate : conditions.certificateWrite.error with
  | some error =>
      rw [if_neg]
      intro hwritten
      rw [WriteOutcome.error_eq_none.mpr hwritten] at hcertificate
      cases hcertificate
  | none =>
      rw [if_pos (WriteOutcome.error_eq_none.mp hcertificate)]
      cases conditions.keyWrite.error <;> rfl

/-- A pair that is generated replaces nothing and stays whole exactly when it is not written at
all, or written completely where no certificate was. -/
theorem keepsMaterial_generated_iff (hfresh : FreshMaterial files material)
    (hdirectory : conditions.directoryError = none) (hread : files.read conditions = none)
    (hgenerated : conditions.generated = .ok material) :
    KeepsMaterial conditions files (loadOrGenerate conditions files).1 ↔
      (conditions.certificateWrite.error.isSome = true ∧
        conditions.certificateWrite.leaves files.certificate material.certificate =
          files.certificate) ∨
      (files.certificate = none ∧ conditions.certificateWrite = .written ∧
        conditions.keyWrite = .written) := by
  rw [loadOrGenerate_generated hdirectory hread hgenerated]
  by_cases hwritten : conditions.certificateWrite = .written
  · have hleaves : conditions.certificateWrite.leaves files.certificate material.certificate =
        some material.certificate := by rw [hwritten, WriteOutcome.leaves]
    rw [if_pos hwritten, hleaves]
    constructor
    · intro hkeeps
      have habsent : files.certificate = none := by
        by_contra hpresent
        have hsame := hkeeps.certificate (Option.isSome_iff_ne_none.mpr hpresent)
        exact hfresh.certificate hsame.symm
      refine .inr ⟨habsent, hwritten, ?_⟩
      by_contra hkey
      rcases hkeeps.pair with hunchanged | ⟨other, hother, hpair⟩
      · have hsame := congrArg MaterialFiles.certificate hunchanged
        rw [habsent] at hsame
        cases hsame
      · rw [hgenerated] at hother
        cases hother
        exact WriteOutcome.leaves_ne hfresh.privateKey_ne hfresh.privateKey hkey
          (congrArg MaterialFiles.privateKey hpair)
    · rintro (⟨herror, -⟩ | ⟨habsent, -, hkey⟩)
      · rw [WriteOutcome.error_eq_none.mpr hwritten] at herror
        cases herror
      · refine ⟨fun hpresent => ?_, .inr ⟨material, hgenerated, ?_⟩⟩
        · rw [habsent] at hpresent
          cases hpresent
        · rw [hkey, WriteOutcome.leaves]
  · rw [if_neg hwritten]
    have herror : conditions.certificateWrite.error.isSome = true := by
      rw [Option.isSome_iff_ne_none]
      exact fun hnone => hwritten (WriteOutcome.error_eq_none.mp hnone)
    constructor
    · intro hkeeps
      refine .inl ⟨herror, ?_⟩
      rcases hkeeps.pair with hunchanged | ⟨other, hother, hpair⟩
      · exact congrArg MaterialFiles.certificate hunchanged
      · rw [hgenerated] at hother
        cases hother
        exact absurd (congrArg MaterialFiles.certificate hpair)
          (WriteOutcome.leaves_ne hfresh.certificate_ne hfresh.certificate hwritten)
    · rintro (⟨-, hsame⟩ | ⟨-, hdone, -⟩)
      · rw [hsame]
        exact keepsMaterial_refl conditions files
      · exact absurd hdone hwritten

end Outcomes

/-- A start keeps the certificate that is there and leaves no half of a pair exactly when it
generates none, does not get as far as writing to the certificate, or writes both files where no
certificate was. -/
theorem loadOrGenerate_keeps_iff (conditions : StartConditions) (files : MaterialFiles)
    (hfresh : ∀ material, conditions.generated = .ok material → FreshMaterial files material) :
    KeepsMaterial conditions files (loadOrGenerate conditions files).1 ↔
      StartsSafely conditions files := by
  cases hdirectory : conditions.directoryError with
  | some error =>
      have hfiles : (loadOrGenerate conditions files).1 = files := by
        simp only [loadOrGenerate, hdirectory]
      rw [hfiles]
      exact iff_of_true (keepsMaterial_refl conditions files)
        (.inl (Option.isSome_of_eq_some hdirectory))
  | none =>
      cases hread : files.read conditions with
      | some material =>
          have hfiles : (loadOrGenerate conditions files).1 = files := by
            simp only [loadOrGenerate, hdirectory, hread]
          rw [hfiles]
          exact iff_of_true (keepsMaterial_refl conditions files)
            (.inr (.inl (Option.isSome_of_eq_some hread)))
      | none =>
          rw [StartsSafely, hdirectory, hread]
          simp only [Option.isSome_none, Bool.false_eq_true, false_or]
          cases hgenerated : conditions.generated with
          | error error =>
              have hfiles : (loadOrGenerate conditions files).1 = files := by
                simp only [loadOrGenerate, hdirectory, hread, hgenerated]
              rw [hfiles]
              refine iff_of_true (keepsMaterial_refl conditions files) ?_
              rintro material ⟨⟩
          | ok material =>
              rw [keepsMaterial_generated_iff (hfresh material hgenerated) hdirectory hread
                hgenerated]
              constructor
              · intro h other hother
                cases hother
                exact h
              · exact fun h => h material rfl

def plainStart : StartConditions where
  directory := "/var/lib/termexo-relay/tls"
  directoryError := none
  certificateReadable := true
  keyReadable := true
  generated := .ok ⟨utf8 "new certificate", utf8 "new key"⟩
  certificateWrite := .written
  keyWrite := .written

theorem loadOrGenerate_keeps_first_start :
    KeepsMaterial plainStart ⟨none, none⟩ (loadOrGenerate plainStart ⟨none, none⟩).1 := by
  refine (loadOrGenerate_keeps_iff plainStart ⟨none, none⟩ ?_).mpr
    (.inr (.inr fun _ _ => .inr ⟨rfl, rfl, rfl⟩))
  rintro material ⟨⟩
  constructor <;> decide

/-- Without its key a certificate that desktops have pinned is replaced. -/
theorem loadOrGenerate_replaces_certificate :
    ¬ ∀ (conditions : StartConditions) (files : MaterialFiles),
      (∀ material, conditions.generated = .ok material → FreshMaterial files material) →
        KeepsMaterial conditions files (loadOrGenerate conditions files).1 := by
  intro h
  have hkeeps := h plainStart ⟨some (utf8 "pinned certificate"), none⟩ (by
    rintro material ⟨⟩
    constructor <;> decide)
  exact absurd (hkeeps.certificate rfl) (by decide)

end TermexoRelay
