import Mathlib.Algebra.Group.Int.Defs
import Mathlib.Algebra.Group.Nat.Defs

/-!
# Error codes, events and integers shared by the components

`esp_err_t` is an `int`: the codes the modelled functions return or compare with
(`esp_err.h` and the component headers), and the events posted to the default event loop
under `OTADRIVE_EVENTS` (`ota_driver/otadrive_esp.h`). An `int` has 32 bits.
-/

namespace ControlFan

def espOk : Int := 0
def espFail : Int := -1
def espErrNoMem : Int := 0x101
def espErrInvalidArg : Int := 0x102
def espErrInvalidState : Int := 0x103
def espErrInvalidSize : Int := 0x104
def espErrNotFound : Int := 0x105
def espErrOtaValidateFailed : Int := 0x1503
def espErrHttpMaxRedirect : Int := 0x7001
def espErrHttpFetchHeader : Int := 0x7004
def espErrHttpsOtaInProgress : Int := 0x9001

/-- What an `int` makes of a sum, a difference or a product. -/
def wrap32 (x : Int) : Int := Int.bmod x (2 ^ 32)

theorem wrap32_eq {x : Int} (hlow : -2 ^ 31 ≤ x) (hhigh : x < 2 ^ 31) : wrap32 x = x :=
  Int.bmod_eq_of_le (by omega) (by omega)

inductive OtadriveEvent where
  | startCheck
  | updateAvailable
  | noupdateAvailable
  | startUpdate
  | finishUpdate
  | updateFailed
  | startStorageUpdate
  | finishStorageUpdate
  | storageUpdateFailed
  | firmwareUpdateProgress
  | storageUpdateProgress
  | pendingReboot
  | wifiConnectted
  | wifiDisconnectted
  deriving DecidableEq, Repr

end ControlFan
