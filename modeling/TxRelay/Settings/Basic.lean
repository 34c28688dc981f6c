import TxRelay.Broadcast
import TxRelay.Confirmation

/-!
# Settings

Everything that can be set, with the defaults, and the rules that settings
have to meet before anything is started with them. Chains are a table from
keys to chains; its order means nothing, so nothing here depends on it but the
choice among several faults.

## Main definitions

* `Settings`: The settings.
* `Settings.validate`: The rules.
* `Settings.enabledChains`, `Settings.chainById?`: The chains.
-/

namespace TxRelay

/-- The settings of the queue. -/
structure QueueSettings where
  /-- How many submissions may wait behind the one in flight. -/
  capacity : Nat
  /-- How long to wait for a confirmation, in seconds. -/
  confirmationSeconds : Nat
  /-- The time between two lookups, in milliseconds. -/
  pollMillis : Nat
  deriving DecidableEq

namespace QueueSettings

/-- What is used where nothing is set. -/
def default : QueueSettings := ⟨16, 120, 1000⟩

/-- How to wait for a confirmation. -/
def plan (s : QueueSettings) : Confirmation.Plan :=
  ⟨s.pollMillis, s.confirmationSeconds * 1000⟩

end QueueSettings

/-- The settings of the sender. -/
structure SenderSettings where
  /-- How many attempts to make. -/
  attempts : Nat
  /-- The pause between two attempts, in milliseconds. -/
  pauseMillis : Nat
  /-- How long to wait for an answer, in seconds. -/
  patienceSeconds : Nat
  deriving DecidableEq

namespace SenderSettings

/-- What is used where nothing is set. -/
def default : SenderSettings := ⟨3, 500, 30⟩

/-- How to broadcast. -/
def policy (s : SenderSettings) : Broadcast.Policy :=
  ⟨s.attempts, s.pauseMillis, s.patienceSeconds * 1000⟩

end SenderSettings

/-- The settings of the interface. -/
structure ApiSettings where
  /-- The host to listen on. -/
  host : String
  /-- The port to listen on. -/
  port : Nat
  deriving DecidableEq

namespace ApiSettings

/-- What is used where nothing is set. -/
def default : ApiSettings := ⟨"127.0.0.1", 8080⟩

/-- The address to listen on. -/
def address (s : ApiSettings) : String :=
  s.host ++ ":" ++ toString s.port

end ApiSettings

/-- The settings of the metrics page. -/
structure MetricsSettings where
  /-- Whether there is one. -/
  enabled : Bool
  /-- The port to listen on. -/
  port : Nat
  deriving DecidableEq

namespace MetricsSettings

/-- What is used where nothing is set. -/
def default : MetricsSettings := ⟨true, 9090⟩

end MetricsSettings

/-- The settings of a chain. -/
structure ChainSettings where
  /-- The chain's number. -/
  chain : ChainId
  /-- Its name. -/
  name : String
  /-- Its endpoints. -/
  urls : List String
  /-- Whether it is used. -/
  enabled : Bool
  deriving DecidableEq

/-- All settings. -/
structure Settings where
  /-- The queue. -/
  queue : QueueSettings
  /-- The sender. -/
  sender : SenderSettings
  /-- The interface. -/
  api : ApiSettings
  /-- The metrics page. -/
  metrics : MetricsSettings
  /-- Whether the log is written as JSON. -/
  jsonLog : Bool
  /-- The chains by their keys. -/
  chains : List (String × ChainSettings)
  deriving DecidableEq

/-- Which rule settings break. -/
inductive SettingsFault where
  /-- The text is no settings. -/
  | unreadable
  /-- The file cannot be read. -/
  | missingFile (path : String)
  /-- The queue has no place. -/
  | noCapacity
  /-- Confirmations are not waited for. -/
  | noConfirmationTime
  /-- Lookups are not paced. -/
  | noPollInterval
  /-- Attempts are not waited for. -/
  | noSendTime
  /-- No attempt is made. -/
  | noAttempt
  /-- No chain is used. -/
  | noChain
  /-- A chain that is used has no endpoint. -/
  | noUrls (key : String)
  /-- A chain that is used has a blank endpoint. -/
  | blankUrl (key : String)
  /-- Two chains that are used have one number. -/
  | duplicateChain (chain : ChainId)
  deriving DecidableEq

namespace SettingsFault

/-- The wording of a fault. A path stands in it as it was quoted. -/
def message : SettingsFault → String
  | .unreadable => "Failed to parse configuration"
  | .missingFile path => "Failed to read config file: " ++ path
  | .noCapacity => "Queue capacity must be at least 1"
  | .noConfirmationTime => "Confirmation timeout must be greater than zero"
  | .noPollInterval => "Confirmation poll interval must be greater than zero"
  | .noSendTime => "Send timeout must be greater than zero"
  | .noAttempt => "Sender must attempt at least one broadcast"
  | .noChain => "At least one chain must be enabled"
  | .noUrls key => "Chain " ++ key ++ " has no RPC URLs configured"
  | .blankUrl key => "Chain " ++ key ++ " has an empty RPC URL (unset environment variable?)"
  | .duplicateChain chain => "Chain id " ++ toString chain ++ " is configured more than once"

end SettingsFault

/-- Whether a character is white space. -/
def isWhite (c : Char) : Bool :=
  let n := c.toNat
  (9 ≤ n && n ≤ 13) || n == 32 || n == 0x85 || n == 0xA0 || n == 0x1680 ||
    (0x2000 ≤ n && n ≤ 0x200A) || n == 0x2028 || n == 0x2029 || n == 0x202F || n == 0x205F ||
    n == 0x3000

/-- Whether a text holds nothing but white space. -/
def isBlankText (s : String) : Bool :=
  s.toList.all isWhite

namespace Settings

/-- The chains that are used. -/
def enabledChains (s : Settings) : List (String × ChainSettings) :=
  s.chains.filter fun c => c.2.enabled

/-- A chain with this number, used or not. -/
def chainById? (chain : ChainId) (s : Settings) : Option ChainSettings :=
  (s.chains.find? fun c => c.2.chain == chain).map (·.2)

/-- The rules for the chains that are used; `seen` are the numbers of those
    already looked at. -/
def validateChains (seen : List ChainId) :
    List (String × ChainSettings) → Except SettingsFault Unit
  | [] => .ok ()
  | (key, c) :: rest =>
    if c.urls.isEmpty then .error (.noUrls key)
    else if c.urls.any isBlankText then .error (.blankUrl key)
    else if seen.contains c.chain then .error (.duplicateChain c.chain)
    else validateChains (c.chain :: seen) rest

/-- The rules. The first one that is broken is reported. -/
def validate (s : Settings) : Except SettingsFault Unit :=
  if s.queue.capacity = 0 then .error .noCapacity
  else if s.queue.confirmationSeconds = 0 then .error .noConfirmationTime
  else if s.queue.pollMillis = 0 then .error .noPollInterval
  else if s.sender.patienceSeconds = 0 then .error .noSendTime
  else if s.sender.attempts = 0 then .error .noAttempt
  else if s.enabledChains.isEmpty then .error .noChain
  else validateChains [] s.enabledChains

end Settings

end TxRelay
