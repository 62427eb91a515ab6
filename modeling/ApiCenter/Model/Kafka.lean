import ApiCenter.Model.Types

namespace ApiCenter

/-- The registry events handed to `kafka.publish`, one constructor a topic. -/
inductive KafkaMessage where
  | serviceRegistered (serviceId name baseUrl : String) (exposes : List String)
      (serviceType : Optional ServiceType) (isUpdate : Bool) (timestamp : String)
  | serviceDeregistered (serviceId timestamp : String)
  | serviceDeprecated (serviceId : String) (sunsetDate replacementService : Optional String)
      (timestamp : Optional String)
  | serviceRetired (serviceId : String) (timestamp : Optional String)
  | serviceVersionChanged (serviceId previousVersion : String) (newVersion : Optional String)
      (timestamp : String)
  | serviceHealthChanged (serviceId : String) (healthy previousHealthy : Bool)
      (reason timestamp : String)
  deriving DecidableEq, Repr

/-- The topic of `TOPICS` a message goes to. -/
def KafkaMessage.topic : KafkaMessage → String
  | .serviceRegistered .. => "api-center.registry.service-registered"
  | .serviceDeregistered .. => "api-center.registry.service-deregistered"
  | .serviceDeprecated .. => "api-center.registry.service-deprecated"
  | .serviceRetired .. => "api-center.registry.service-retired"
  | .serviceVersionChanged .. => "api-center.registry.service-version-changed"
  | .serviceHealthChanged .. => "api-center.registry.service-health-changed"

end ApiCenter
