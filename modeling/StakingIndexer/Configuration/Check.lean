import StakingIndexer.Configuration.Basic
import StakingIndexer.Decimal.Shortest
import StakingIndexer.Text.Invisible

/-!
# Checks of a configuration

Settings that are readable each by itself may still be of no use together.
-/

namespace StakingIndexer

/-- What is wrong with a configuration. A url is foreign if it leads to no websocket. -/
inductive ConfigurationFault where
  | noUrls (list : String)
  | foreignUrl (list url : String)
  | aprBounds (least greatest : Float)
  | notPositive (name : String)
  | inflationBounds

namespace ConfigurationFault

def message : ConfigurationFault → String
  | noUrls list => list ++ " is empty"
  | foreignUrl list url => list ++ " contains a non-websocket url: " ++ url
  | aprBounds least greatest =>
    "APR_MIN (" ++ Decimal.floatText least ++ ") exceeds APR_MAX ("
      ++ Decimal.floatText greatest ++ ")"
  | notPositive name => name ++ " must be positive"
  | inflationBounds => "MIN_INFLATION exceeds MAX_INFLATION"

end ConfigurationFault

namespace Configuration

/-- Whether a node can be reached at a url. -/
def isWebsocket (url : String) : Bool := url.startsWith "ws://" || url.startsWith "wss://"

/-- A list of urls needs one that is not blank, and all of them lead to websockets. -/
def checkUrls (list : String) (urls : List String) : Except ConfigurationFault Unit :=
  if urls.all Text.isBlankText then .error (.noUrls list)
  else match urls.find? (!isWebsocket ·) with
    | some url => .error (.foreignUrl list url)
    | none => .ok ()

/-- The settings that must not be zero, with the names under which they are reported. -/
def positives (c : Configuration) : List (String × UInt64) :=
  [("MAX_RANGE_OF_BLOCKS", c.maxRange), ("TIMEOUT", c.callTimeout),
    ("ERA_DURATION_IN_BLOCKS", c.constants.eraDurationInBlocks),
    ("ERAS_PER_DAY", c.constants.erasPerDay), ("DATABASE_QUERY_LIMIT", c.historyLimit)]

/-- The first fault of a configuration. -/
def check (c : Configuration) : Except ConfigurationFault Unit := do
  checkUrls "WS_URLS_PARA" c.parachainUrls
  checkUrls "WS_URLS_RELAY" c.relayUrls
  if c.constants.aprMax < c.constants.aprMin then
    throw (.aprBounds c.constants.aprMin c.constants.aprMax)
  match c.positives.find? (·.2 = 0) with
  | some (name, _) => throw (.notPositive name)
  | none => pure ()
  if c.constants.maxInflation < c.constants.minInflation then throw .inflationBounds

end Configuration
end StakingIndexer
