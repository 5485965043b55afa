import TermexoRelay.Library.Rows
import TermexoRelay.Library.Text
import TermexoRelay.Protocol.Frames

/-!
# The tables of the relay's database

One record for each table, with the columns the handlers read or write. Every row is filed under
its primary key; the audit trail and the settings are not part of the model.
-/

namespace TermexoRelay

inductive UserRole where
  | admin
  | user
deriving DecidableEq, Repr

def UserRole.isAdmin (role : UserRole) : Bool := role = .admin

structure UserRecord where
  id : String
  username : String
  passwordHash : String
  role : UserRole
  disabled : Bool
  createdAt : Int
  lastLoginAt : Option Int
deriving DecidableEq, Repr

structure UserUpdate where
  disabled : Option Bool
  role : Option UserRole
  passwordHash : Option String
deriving DecidableEq, Repr

def UserUpdate.isEmpty (update : UserUpdate) : Bool :=
  update.disabled.isNone && update.role.isNone && update.passwordHash.isNone

inductive DeviceAccess where
  | publicAccess
  | relayLogin
deriving DecidableEq, Repr

namespace DeviceAccess

def requiresConsoleSession (access : DeviceAccess) : Bool := access = .relayLogin

end DeviceAccess

structure DeviceRecord where
  id : String
  kind : DeviceKind
  name : String
  ownerUserId : Option String
  secretHash : String
  note : Option String
  createdAt : Int
  revokedAt : Option Int
  lastSeenAt : Option Int
  lastIp : Option String
  lastVersion : Option String
  access : DeviceAccess
deriving DecidableEq, Repr

namespace DeviceRecord

def isRevoked (device : DeviceRecord) : Bool := device.revokedAt.isSome

/-- Whether one console account may reach this device when it is not public. -/
def isReachableBy (device : DeviceRecord) (userId : String) (isAdmin : Bool) : Bool :=
  isAdmin || decide (device.ownerUserId = some userId)

end DeviceRecord

structure DeviceUpdate where
  name : Option String
  note : Option String
  access : Option DeviceAccess
deriving DecidableEq, Repr

def DeviceUpdate.isEmpty (update : DeviceUpdate) : Bool :=
  update.name.isNone && update.note.isNone && update.access.isNone

structure NewDevice where
  id : String
  kind : DeviceKind
  name : String
  ownerUserId : Option String
  secretHash : String
  note : Option String
deriving DecidableEq, Repr

inductive EnrollmentStatus where
  | pending
  | used
  | expired
  | cancelled
deriving DecidableEq, Repr

structure EnrollmentRecord where
  id : String
  codeHash : String
  kind : DeviceKind
  ownerUserId : Option String
  createdBy : String
  note : Option String
  createdAt : Int
  expiresAt : Int
  usedAt : Option Int
  usedByDeviceId : Option String
  cancelledAt : Option Int
deriving DecidableEq, Repr

namespace EnrollmentRecord

def status (enrollment : EnrollmentRecord) (now : Int) : EnrollmentStatus :=
  if enrollment.usedAt.isSome then .used
  else if enrollment.cancelledAt.isSome then .cancelled
  else if enrollment.expiresAt ≤ now then .expired
  else .pending

def isRedeemable (enrollment : EnrollmentRecord) (now : Int) : Bool :=
  enrollment.status now = .pending

end EnrollmentRecord

structure NewEnrollment where
  codeHash : String
  kind : DeviceKind
  ownerUserId : Option String
  createdBy : String
  note : Option String
  expiresAt : Int
deriving DecidableEq, Repr

/-- A console session, under the digest of its cookie value. -/
structure SessionRecord where
  idHash : String
  userId : String
  createdAt : Int
  expiresAt : Int
  ip : Option String
deriving DecidableEq, Repr

def SessionRecord.isExpired (session : SessionRecord) (now : Int) : Bool :=
  decide (session.expiresAt ≤ now)

inductive DatabaseError where
  | sqlite
  | random
  | usernameTaken
deriving DecidableEq, Repr

/-- Blank text is stored and read as nothing. -/
def optionalText (value : Option String) : Option String :=
  value.filter fun text => Text.trimString text ≠ ""

structure Database where
  users : Rows UserRecord.id
  devices : Rows DeviceRecord.id
  enrollmentCodes : Rows EnrollmentRecord.id
  consoleSessions : Rows SessionRecord.idHash
deriving DecidableEq

def Database.empty : Database := ⟨.empty, .empty, .empty, .empty⟩

end TermexoRelay
