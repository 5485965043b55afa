import TermexoRelay.Api.Errors
import TermexoRelay.Database.Standing

/-!
# Console and enrollment requests, action by action

Between two database queries of a handler, or between a query and a use of the registry, any other
task may act. A handler stops at the first query that fails; what it did before stays done. The
caller of a console request has been looked up before the handler starts, and the audit trail and
the rendering of the response come after everything the handlers do to the state.
-/

namespace TermexoRelay

def UNKNOWN_USER : String := "用户不存在。"
def UNKNOWN_DEVICE : String := "设备不存在。"
def NOT_YOUR_DEVICE : String := "只能管理自己名下的设备。"
def NOTHING_TO_UPDATE : String := "没有需要修改的字段。"
def CANNOT_DELETE_SELF : String := "不能删除当前登录的账号。"
def UNKNOWN_ENROLLMENT : String := "接入码不存在。"
def ALREADY_SETTLED : String := "接入码已被使用或已作废。"
def UNKNOWN_OWNER : String := "指定的归属用户不存在。"
def INVALID_CODE : String := "接入码无效、已过期或已被使用。"
def INVALID_ACCOUNT : String := "用户名或密码不正确。"
def REVOKED_REASON : String := "接入已被中继撤销。"
def DISCONNECTED_REASON : String := "中继管理员断开了这条隧道。"

def checkField {α β : Type} (check : α → Except ApiError β) (field : Option α) :
    Except ApiError (Option β) :=
  match field with
  | none => .ok none
  | some value => (check value).map some

structure UpdateUserRequest where
  disabled : Option Bool
  role : Option UserRole
  password : Option String
deriving DecidableEq, Repr

/-- The patch a request asks for, once its password is checked and hashed. -/
def UpdateUserRequest.toUpdate (config : RelayConfig) (request : UpdateUserRequest) :
    Except ApiError UserUpdate :=
  match checkField (newPasswordHash config) request.password with
  | .error e => .error e
  | .ok passwordHash =>
      let update : UserUpdate := ⟨request.disabled, request.role, passwordHash⟩
      if update.isEmpty then .error (.badRequest NOTHING_TO_UPDATE) else .ok update

structure DeviceUpdateRequest where
  name : Option String
  note : Option String
  access : Option String
deriving DecidableEq, Repr

def DeviceUpdateRequest.toUpdate (request : DeviceUpdateRequest) : Except ApiError DeviceUpdate :=
  match checkField (requireText · "设备名称" MAX_DEVICE_NAME_LENGTH) request.name,
    checkField boundedNote request.note, checkField requestedAccess request.access with
  | .error e, _, _ => .error e
  | .ok _, .error e, _ => .error e
  | .ok _, .ok _, .error e => .error e
  | .ok name, .ok note, .ok access =>
      let update : DeviceUpdate := ⟨name, note, access⟩
      if update.isEmpty then .error (.badRequest NOTHING_TO_UPDATE) else .ok update

structure CreateEnrollmentRequest where
  kind : DeviceKind
  ownerUserId : Option String
  ttlMinutes : Option Nat
  note : Option String
deriving DecidableEq, Repr

inductive RevokeTail where
  | reply
  | disable (userId : String)
  | delete (userId : String)
deriving DecidableEq, Repr

/-- How far `revoke` is for one device: the row, the route lookup, the frame and the close. -/
inductive RevokeStage where
  | row
  | route
  | frame (handle : TunnelHandle)
  | close (handle : TunnelHandle)
deriving DecidableEq, Repr

inductive Reply where
  | done
  | issued (code : String)
  | enrolled (credential : DeviceCredential)
deriving DecidableEq, Repr

inductive Request where
  | finished (outcome : Except ApiError Reply)
  | createUser (username password : String) (role : UserRole)
  | updateUser (id : String) (request : UpdateUserRequest)
  | updatingUser (userId : String) (update : UserUpdate)
  /-- `delete_sessions_of_user` of an update. -/
  | signingOut (userId : String) (update : UserUpdate)
  | deleteUser (actorId id : String)
  /-- `revoke_devices_of`: the account's devices are listed next. -/
  | listing (userId : String) (tail : RevokeTail)
  /-- `revoke` of one device; `remaining` are the devices of the list after it. -/
  | revoking (deviceId : String) (remaining : List String) (tail : RevokeTail)
      (stage : RevokeStage)
  | disowning (userId : String)
  | forgetting (userId : String)
  | deletingUser (userId : String)
  /-- `update_any` (`owner` is `none`) and `update_own`. -/
  | updateDevice (owner : Option String) (id : String) (request : DeviceUpdateRequest)
  | updatingDevice (deviceId : String) (update : DeviceUpdate)
  /-- `revoke_any` (`owner` is `none`) and `revoke_own`. -/
  | revokeDevice (owner : Option String) (id : String)
  | disconnectDevice (id : String)
  | routing (deviceId : String)
  | disconnecting (deviceId : String) (handle : TunnelHandle)
  | createEnrollment (createdBy : String) (request : CreateEnrollmentRequest)
  | creatingEnrollment (createdBy : String) (owner : Option String)
      (request : CreateEnrollmentRequest)
  | cancelEnrollment (id : String)
  | cancelling (id : String)
  | enrollWithCode (code name : String)
  | enrollWithPassword (username password name : String)
  /-- `issue_device`; `enrollment` is the code that is burned afterwards. -/
  | issuing (kind : DeviceKind) (owner : Option String) (name : String)
      (enrollment : Option String)
  | burning (enrollment : String) (credential : DeviceCredential)
  /-- The code was lost to another redemption, so the fresh row is revoked. -/
  | discarding (deviceId : String)
deriving DecidableEq

namespace Request

def succeed (reply : Reply) : Request := .finished (.ok reply)

def fail (e : ApiError) : Request := .finished (.error e)

def abort (e : DatabaseError) : Request := fail (.ofDatabase e)

def starts : Request → Bool
  | .createUser _ _ _ => true
  | .updateUser _ _ => true
  | .deleteUser _ _ => true
  | .updateDevice _ _ _ => true
  | .revokeDevice _ _ => true
  | .disconnectDevice _ => true
  | .createEnrollment _ _ => true
  | .cancelEnrollment _ => true
  | .enrollWithCode _ _ => true
  | .enrollWithPassword _ _ _ => true
  | _ => false

def revokeNext (tail : RevokeTail) : List String → Request
  | deviceId :: remaining => .revoking deviceId remaining tail .row
  | [] => match tail with
      | .reply => succeed .done
      | .disable _ => succeed .done
      | .delete userId => .disowning userId

/-- `find_device` and `find_own_device`. -/
def findOwnDevice (db : Database) (fault : Fault) (owner : Option String) (id : String) :
    Except ApiError DeviceRecord :=
  match db.findDevice fault id with
  | .error e => .error (.ofDatabase e)
  | .ok none => .error (.notFound UNKNOWN_DEVICE)
  | .ok (some device) =>
      if owner.all fun owner => device.ownerUserId = some owner then .ok device
      else .error (.forbidden NOT_YOUR_DEVICE)

def normalizedOwner (db : Database) (fault : Fault) (owner : Option String) :
    Except ApiError (Option String) :=
  match (owner.map Text.trimString).filter fun owner => owner ≠ "" with
  | none => .ok none
  | some owner =>
      match db.findUser fault owner with
      | .error e => .error (.ofDatabase e)
      | .ok none => .error (.badRequest UNKNOWN_OWNER)
      | .ok (some user) => .ok (some user.id)

def redeemable (config : RelayConfig) (db : Database) (choice : TaskChoice) (code : String) :
    Except ApiError EnrollmentRecord :=
  match normalizeCode code with
  | none => .error (.unauthorized INVALID_CODE)
  | some canonical =>
      match db.findEnrollmentByHash choice.fault (config.hashSecret canonical) with
      | .error e => .error (.ofDatabase e)
      | .ok none => .error (.unauthorized INVALID_CODE)
      | .ok (some enrollment) =>
          if enrollment.isRedeemable choice.now then .ok enrollment
          else .error (.unauthorized INVALID_CODE)

/-- The account a device signs in with. -/
def passwordOwner (config : RelayConfig) (db : Database) (fault : Fault)
    (username password : String) : Except ApiError UserRecord :=
  match db.findUserByUsername fault (Text.trimString username) with
  | .error e => .error (.ofDatabase e)
  | .ok none => .error (.unauthorized INVALID_ACCOUNT)
  | .ok (some user) =>
      if !user.disabled && config.verifyPassword password user.passwordHash then .ok user
      else .error (.unauthorized INVALID_ACCOUNT)

def issued (config : RelayConfig) (credential : DeviceCredential) (kind : DeviceKind)
    (owner : Option String) (name : String) : NewDevice where
  id := credential.deviceId
  kind := kind
  name := name
  ownerUserId := owner
  secretHash := config.hashSecret credential.secret
  note := none

def step (config : RelayConfig) (relay : Relay) (choice : TaskChoice) :
    Request → Option (Relay × Request)
  | .finished _ => none
  | .createUser username password role =>
      match validatedUsername username, newPasswordHash config password with
      | .error e, _ => some (relay, fail e)
      | .ok _, .error e => some (relay, fail e)
      | .ok username, .ok hash =>
          match relay.database.createUser choice.fault choice.identifier username hash role
              choice.now with
          | .error e => some (relay, abort e)
          | .ok database => some ({ relay with database }, succeed .done)
  | .updateUser id request =>
      match relay.database.findUser choice.fault id with
      | .error e => some (relay, abort e)
      | .ok none => some (relay, fail (.notFound UNKNOWN_USER))
      | .ok (some user) =>
          match request.toUpdate config with
          | .error e => some (relay, fail e)
          | .ok update => some (relay, .updatingUser user.id update)
  | .updatingUser userId update =>
      match relay.database.updateUser choice.fault userId update with
      | (database, .error e) => some ({ relay with database }, abort e)
      | (database, .ok ()) =>
          some ({ relay with database },
            if update.passwordHash.isSome || update.disabled = some true then
              .signingOut userId update
            else succeed .done)
  | .signingOut userId update =>
      match relay.database.deleteSessionsOfUser choice.fault userId with
      | .error e => some (relay, abort e)
      | .ok database =>
          some ({ relay with database },
            if update.disabled = some true then .listing userId (.disable userId)
            else succeed .done)
  | .deleteUser actorId id =>
      if id = actorId then some (relay, fail (.badRequest CANNOT_DELETE_SELF))
      else match relay.database.findUser choice.fault id with
        | .error e => some (relay, abort e)
        | .ok none => some (relay, fail (.notFound UNKNOWN_USER))
        | .ok (some user) => some (relay, .listing user.id (.delete user.id))
  | .listing userId tail =>
      if choice.fault.isSome then some (relay, abort .sqlite)
      else if choice.order.Perm (relay.database.ownedBy userId) ∧
          relay.database.newestFirst choice.order then
        some (relay, revokeNext tail choice.order)
      else none
  | .revoking deviceId remaining tail .row =>
      match relay.database.revokeDevice choice.fault deviceId choice.now with
      | .error e => some (relay, abort e)
      | .ok (database, _) =>
          some ({ relay with database }, .revoking deviceId remaining tail .route)
  | .revoking deviceId remaining tail .route =>
      match relay.registry.state.route deviceId with
      | some route => some (relay, .revoking deviceId remaining tail (.frame route.link))
      | none => some (relay, revokeNext tail remaining)
  | .revoking deviceId remaining tail (.frame handle) =>
      some (relay.sendFrame handle (.revoked REVOKED_REASON),
        .revoking deviceId remaining tail (.close handle))
  | .revoking _ remaining tail (.close handle) =>
      some (relay.close handle .revoked REVOKED_REASON, revokeNext tail remaining)
  | .disowning userId =>
      match relay.database.disownDevicesOf choice.fault userId with
      | .error e => some (relay, abort e)
      | .ok database => some ({ relay with database }, .forgetting userId)
  | .forgetting userId =>
      match relay.database.deleteSessionsOfUser choice.fault userId with
      | .error e => some (relay, abort e)
      | .ok database => some ({ relay with database }, .deletingUser userId)
  | .deletingUser userId =>
      match relay.database.deleteUser choice.fault userId with
      | .error e => some (relay, abort e)
      | .ok database => some ({ relay with database }, succeed .done)
  | .updateDevice owner id request =>
      match findOwnDevice relay.database choice.fault owner id with
      | .error e => some (relay, fail e)
      | .ok device =>
          let request := if owner.isSome then { request with note := none } else request
          match request.toUpdate with
          | .error e => some (relay, fail e)
          | .ok update => some (relay, .updatingDevice device.id update)
  | .updatingDevice deviceId update =>
      match relay.database.updateDevice choice.fault deviceId update with
      | (database, .error e) => some ({ relay with database }, abort e)
      | (database, .ok ()) => some ({ relay with database }, succeed .done)
  | .revokeDevice owner id =>
      match findOwnDevice relay.database choice.fault owner id with
      | .error e => some (relay, fail e)
      | .ok device => some (relay, .revoking device.id [] .reply .row)
  | .disconnectDevice id =>
      match findOwnDevice relay.database choice.fault none id with
      | .error e => some (relay, fail e)
      | .ok device => some (relay, .routing device.id)
  | .routing deviceId =>
      match relay.registry.state.route deviceId with
      | some route => some (relay, .disconnecting deviceId route.link)
      | none => some (relay, succeed .done)
  | .disconnecting _ handle =>
      some (relay.close handle .goingAway DISCONNECTED_REASON, succeed .done)
  | .createEnrollment createdBy request =>
      match normalizedOwner relay.database choice.fault request.ownerUserId with
      | .error e => some (relay, fail e)
      | .ok owner => some (relay, .creatingEnrollment createdBy owner request)
  | .creatingEnrollment createdBy owner request =>
      match boundedEnrollmentNote request.note, choice.code with
      | .error e, _ => some (relay, fail e)
      | .ok _, .error e => some (relay, fail (.badRequest ("无法生成接入码：" ++ e)))
      | .ok note, .ok code =>
          let enrollment : NewEnrollment :=
            { codeHash := config.hashSecret code
              kind := request.kind
              ownerUserId := owner
              createdBy := createdBy
              note := note
              expiresAt := choice.now + (clampTtlMinutes request.ttlMinutes : Int) * 60000 }
          match relay.database.createEnrollment choice.fault choice.identifier enrollment
              choice.now with
          | .error e => some (relay, abort e)
          | .ok database => some ({ relay with database }, succeed (.issued code))
  | .cancelEnrollment id =>
      match relay.database.findEnrollment choice.fault id with
      | .error e => some (relay, abort e)
      | .ok none => some (relay, fail (.notFound UNKNOWN_ENROLLMENT))
      | .ok (some record) => some (relay, .cancelling record.id)
  | .cancelling id =>
      match relay.database.cancelEnrollment choice.fault id choice.now with
      | .error e => some (relay, abort e)
      | .ok (database, changed) =>
          some ({ relay with database },
            if changed then succeed .done else fail (.conflict ALREADY_SETTLED))
  | .enrollWithCode code name =>
      match requireText name "设备名称" MAX_DEVICE_NAME_LENGTH with
      | .error e => some (relay, fail e)
      | .ok name =>
          match redeemable config relay.database choice code with
          | .error e => some (relay, fail e)
          | .ok enrollment =>
              some (relay, .issuing enrollment.kind enrollment.ownerUserId name
                (some enrollment.id))
  | .enrollWithPassword username password name =>
      match requireText name "设备名称" MAX_DEVICE_NAME_LENGTH with
      | .error e => some (relay, fail e)
      | .ok name =>
          match passwordOwner config relay.database choice.fault username password with
          | .error e => some (relay, fail e)
          | .ok user => some (relay, .issuing .desktop (some user.id) name none)
  | .issuing kind owner name enrollment =>
      match choice.credential with
      | none => some (relay, fail .internal)
      | some credential =>
          match relay.database.createDevice choice.fault
              (issued config credential kind owner name) choice.now with
          | .error e => some (relay, abort e)
          | .ok database =>
              some ({ relay with database }, match enrollment with
                | some enrollment => .burning enrollment credential
                | none => succeed (.enrolled credential))
  | .burning enrollment credential =>
      match relay.database.markEnrollmentUsed choice.fault enrollment credential.deviceId
          choice.now with
      | .error e => some (relay, abort e)
      | .ok (database, changed) =>
          some ({ relay with database },
            if changed then succeed (.enrolled credential) else .discarding credential.deviceId)
  | .discarding deviceId =>
      match relay.database.revokeDevice choice.fault deviceId choice.now with
      | .error e => some (relay, abort e)
      | .ok (database, _) => some ({ relay with database }, fail (.unauthorized INVALID_CODE))

end Request

end TermexoRelay
