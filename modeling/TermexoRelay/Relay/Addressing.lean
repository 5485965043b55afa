import TermexoRelay.Library.Text
import TermexoRelay.Protocol.Frames
import TermexoRelay.Proxy.Target

/-!
# The public addresses of a relay's devices

A relay hands out `https://<relay>/d/<deviceId>/`, or `https://<deviceId>.<base>/` once a subdomain
base is configured.
-/

namespace TermexoRelay

def HTTPS_SCHEME : String := "https://"
def HTTP_SCHEME : String := "http://"
def HTTPS_PROTO : String := "https"
def HTTP_PROTO : String := "http"

def scheme (secure : Bool) : String := if secure then HTTPS_PROTO else HTTP_PROTO

/-- The origin browsers reach the relay at. Neither way of building one leaves a slash in the
host. -/
structure PublicUrl where
  origin : String
  host : String
  secure : Bool
  origin_eq : origin = (if secure then HTTPS_SCHEME else HTTP_SCHEME) ++ host
  host_plain : '/' ∉ host.toList
deriving DecidableEq

namespace PublicUrl

def hostName (url : PublicUrl) : List Char :=
  if ':' ∈ url.host.toList ∧ url.host.toList.getLast? ≠ some ']' then
    (url.host.toList.rdropWhile (· ≠ ':')).dropLast
  else url.host.toList

/-- `:8443` when the relay answers on a port of its own, otherwise empty. -/
def portSuffix (url : PublicUrl) : String :=
  String.ofList (url.host.toList.drop url.hostName.length)

theorem portSuffix_plain (url : PublicUrl) : '/' ∉ url.portSuffix.toList := by
  rw [portSuffix, String.toList_ofList]
  exact fun h => url.host_plain (List.mem_of_mem_drop h)

end PublicUrl

/-- The domain device subdomains hang off. Its labels are letters, digits and hyphens. -/
structure SubdomainBase where
  host : String
  host_plain : '/' ∉ host.toList
deriving DecidableEq

def pathBase (deviceId : String) : String := DEVICE_PATH_PREFIX ++ deviceId ++ "/"

structure DeviceAddressing where
  publicUrl : PublicUrl
  subdomainBase : Option SubdomainBase
deriving DecidableEq

namespace DeviceAddressing

/-- The address this relay advertises for a device. -/
def deviceUrl (addressing : DeviceAddressing) (deviceId : String) : String :=
  match addressing.subdomainBase with
  | some base =>
      scheme addressing.publicUrl.secure ++ "://" ++ deviceId ++ "." ++ base.host ++
        addressing.publicUrl.portSuffix ++ "/"
  | none => addressing.publicUrl.origin ++ pathBase deviceId

end DeviceAddressing

theorem toList_pathBase (deviceId : String) :
    (pathBase deviceId).toList = '/' :: 'd' :: '/' :: (deviceId.toList ++ ['/']) := by
  simp [pathBase, DEVICE_PATH_PREFIX]

theorem stripSuffix_subdomain {addressing : DeviceAddressing} {base : SubdomainBase}
    {deviceId : String} (hbase : addressing.subdomainBase = some base)
    (hid : '/' ∉ deviceId.toList) :
    Text.stripSuffix (pathBase deviceId).toList (addressing.deviceUrl deviceId).toList = none := by
  rw [Option.eq_none_iff_forall_ne_some]
  intro origin hstrip
  rw [Text.stripSuffix_eq_some, toList_pathBase] at hstrip
  set host := deviceId.toList ++ '.' :: (base.host.toList ++
    addressing.publicUrl.portSuffix.toList) with hhost
  have hurl : (addressing.deviceUrl deviceId).toList =
      ((scheme addressing.publicUrl.secure).toList ++ [':', '/']) ++ '/' :: host ++ ['/'] := by
    simp [DeviceAddressing.deviceUrl, hbase, hhost]
  have hplain : '/' ∉ host := by
    simp [hhost, hid, base.host_plain, addressing.publicUrl.portSuffix_plain]
  have hcut : ((scheme addressing.publicUrl.secure).toList ++ [':', '/']) ++ '/' :: host =
      (origin ++ ['/', 'd']) ++ '/' :: deviceId.toList := by
    have hslash : (((scheme addressing.publicUrl.secure).toList ++ [':', '/']) ++ '/' :: host) ++
        ['/'] = ((origin ++ ['/', 'd']) ++ '/' :: deviceId.toList) ++ ['/'] := by
      rw [← hurl, hstrip]
      simp
    exact List.append_cancel_right hslash
  have hsame := congrArg List.length (Text.eq_of_append_cons_eq hplain hid hcut)
  simp only [hhost, List.length_append, List.length_cons] at hsame
  omega

theorem stripSuffix_path {addressing : DeviceAddressing} (hbase : addressing.subdomainBase = none)
    (deviceId : String) :
    Text.stripSuffix (pathBase deviceId).toList (addressing.deviceUrl deviceId).toList =
      some addressing.publicUrl.origin.toList := by
  rw [Text.stripSuffix_eq_some, DeviceAddressing.deviceUrl, hbase, String.toList_append]

end TermexoRelay
