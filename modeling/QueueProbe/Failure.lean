import QueueProbe.Text.Quoted

/-! The errors of the broker, of queue handlers and of settings, with the sentence each is reported
by and its debug text. -/

namespace QueueProbe

/-- Errors with a sentence to report them by. -/
class Failure (ε : Type) extends Debug ε where
  message : ε → String

structure ChannelId where
  number : Nat
deriving DecidableEq, Repr

def ChannelId.text (c : ChannelId) : String := "ChannelId(" ++ toString c.number ++ ")"

instance : Debug ChannelId := ⟨ChannelId.text⟩

structure ConsumerTag where
  text : String
deriving DecidableEq, Repr

instance : Debug ConsumerTag := ⟨fun t => Text.applied "ConsumerTag" [debug t.text]⟩

inductive BrokerError where
  | transport (message : String)
  | unknownQueue (queue : String)
  | unknownDeliveryTag (tag : Nat)
  | unknownConsumer (tag : ConsumerTag)
  | channelClosed (channel : ChannelId)
deriving DecidableEq, Repr

namespace BrokerError

def connectionLost : BrokerError := transport "connection to broker lost"

def message : BrokerError → String
  | transport m => "Broker transport failure: " ++ m
  | unknownQueue q => "No queue '" ++ q ++ "'"
  | unknownDeliveryTag n => "Unknown delivery tag " ++ toString n
  | unknownConsumer t => "No active consumer '" ++ t.text ++ "' on this channel"
  | channelClosed c => "Channel " ++ c.text ++ " is closed"

instance : Debug BrokerError where
  debug
    | transport m => Text.record "Transport" [("message", debug m)]
    | unknownQueue q => Text.record "UnknownQueue" [("queue", debug q)]
    | unknownDeliveryTag n => Text.record "UnknownDeliveryTag" [("delivery_tag", debug n)]
    | unknownConsumer t => Text.record "UnknownConsumer" [("tag", debug t)]
    | channelClosed c => Text.record "ChannelClosed" [("channel", debug c)]

instance : Failure BrokerError := ⟨message⟩

end BrokerError

inductive QueueError where
  | decode (message : String)
  | keyDerivation (message : String)
  | encode (message : String)
  | subscriptionState (message : String)
  | transport (message : String)
  | illegalState (message : String)
  | configuration (message : String)
  | synchronisation (message : String)
deriving DecidableEq, Repr

namespace QueueError

/-- A consumer that the broker does not know is a matter of subscriptions, all else of transport. -/
def ofBroker : BrokerError → QueueError
  | .unknownConsumer t => subscriptionState (BrokerError.unknownConsumer t).message
  | e => transport e.message

def message : QueueError → String
  | decode m => "Failed to decode payload: " ++ m
  | keyDerivation m => "Failed to derive key: " ++ m
  | encode m => "Failed to encode value: " ++ m
  | subscriptionState m => "Subscription state error: " ++ m
  | transport m => "Transport error: " ++ m
  | illegalState m => "Illegal state: " ++ m
  | configuration m => "Configuration error: " ++ m
  | synchronisation m => "Synchronisation error: " ++ m

instance : Debug QueueError where
  debug
    | decode m => Text.applied "Decode" [Text.record "DecodeError" [("message", debug m)]]
    | keyDerivation m =>
      Text.applied "KeyDerivation" [Text.record "KeyDerivationError" [("message", debug m)]]
    | encode m => Text.applied "Encode" [Text.record "EncodeError" [("message", debug m)]]
    | subscriptionState m => Text.record "SubscriptionState" [("message", debug m)]
    | transport m => Text.record "Transport" [("message", debug m)]
    | illegalState m => Text.record "IllegalState" [("message", debug m)]
    | configuration m => Text.record "Configuration" [("message", debug m)]
    | synchronisation m => Text.record "Synchronisation" [("message", debug m)]

instance : Failure QueueError := ⟨message⟩

/-- The part of the error that is written for the user, if the user can do something about it. -/
def userMessage : QueueError → Option String
  | configuration m => some m
  | _ => none

end QueueError

inductive ConfigError where
  | notFound (message : String)
  | io (message : String)
  | parse (message : String)
  | invalid (message : String)
deriving DecidableEq, Repr

namespace ConfigError

def message : ConfigError → String
  | notFound m => "Configuration file not found: " ++ m
  | io m => "Cannot read configuration file: " ++ m
  | parse m => "Invalid TOML: " ++ m
  | invalid m => "Invalid configuration: " ++ m

instance : Debug ConfigError where
  debug
    | notFound m => Text.record "NotFound" [("message", debug m)]
    | io m => Text.record "Io" [("message", debug m)]
    | parse m => Text.record "Parse" [("message", debug m)]
    | invalid m => Text.record "Invalid" [("message", debug m)]

instance : Failure ConfigError := ⟨message⟩

def userMessage : ConfigError → Option String
  | io _ => none
  | notFound m | parse m | invalid m => some m

end ConfigError
end QueueProbe
