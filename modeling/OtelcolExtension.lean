import OtelcolExtension.Go.Errors
import OtelcolExtension.Config.Types
import OtelcolExtension.Config.Validation
import OtelcolExtension.Actuator.Resources
import OtelcolExtension.Actuator.Actuator
import OtelcolExtension.Actuator.Lifecycle
import OtelcolExtension.Actuator.Outcome
import OtelcolExtension.Admission.Validator
import OtelcolExtension.Pipeline
