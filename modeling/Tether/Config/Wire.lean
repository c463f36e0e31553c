import Tether.Config
import Tether.Json.Fields

/-!
# Configurations in JSON

A configuration is written as an object of its sections with all their values.
-/

namespace Tether

namespace Config

def toJson (config : Config) : Json :=
  .ofFields
    [("shared", .ofFields
      [("log_level", .str config.shared.logLevel.name),
        ("service_name", .str config.shared.serviceName)]),
      ("device", .ofFields
        [("driver", .str config.device.driver), ("download_dir", .str config.device.downloadDir),
          ("download", .bool config.device.download)]),
      ("transport", .ofFields
        [("enabled", .bool config.transport.enabled), ("bind", .str config.transport.bind.render),
          ("port", .ofNat config.transport.port),
          ("max_frame_len", .ofNat config.transport.maxFrame)]),
      ("timing", .ofFields
        [("connection_retry_ms", .ofNat config.timing.connectionRetry),
          ("error_retry_ms", .ofNat config.timing.errorRetry),
          ("recovery_grace_ms", .ofNat config.timing.recoveryGrace),
          ("heartbeat_ms", .ofNat config.timing.heartbeat)])]

end Config

def Camera.Settings.toJson (settings : Camera.Settings) : Json :=
  .ofFields
    [("download_dir", .str settings.downloadDir), ("download", .bool settings.download),
      ("connection_retry_ms", .ofNat settings.connectionRetry),
      ("error_retry_ms", .ofNat settings.errorRetry),
      ("recovery_grace_ms", .ofNat settings.recoveryGrace)]

end Tether
