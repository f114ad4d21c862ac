/-
Module: WebHost.Report.Server
Purpose: Settings and counts as JSON, for diagnostics.
Main exports:
  Config.report, Metrics.report, Demo.report
-/
import WebHost.Demo
import WebHost.Metrics
import WebHost.Number.Decimal
import WebHost.Report.Exchange

namespace WebHost

open Number

/-!
A report on settings has the shape of a configuration; the rate of polling is a
text, since it may be no number.  Metrics are reported row by row, in the order
of the text of the rows.
-/

def ListenerConfig.report (config : ListenerConfig) : Json :=
  .record
    [("bind_address", .text config.bindAddress),
     ("tls", match config.tls with
        | none => .null
        | some names =>
            .record [("cert_path", .text names.certificate), ("key_path", .text names.key)])]

def HttpConfig.report (config : HttpConfig) : Json :=
  .record
    [("server_name", .text config.serverName),
     ("encoding", .text config.encoding),
     ("root_dir", .ofText? config.rootDirectory),
     ("not_found_path", .ofText? config.notFoundPath),
     ("resource_paths", reportTexts config.resourceNames)]

def SocketConfig.report (config : SocketConfig) : Json :=
  .record
    [("protocols", reportTexts config.protocols),
     ("default_protocol", .ofText? config.defaultProtocol),
     ("poll_frequency_hz", .text (positionalText config.pollFrequency))]

def ObservabilityConfig.report (config : ObservabilityConfig) : Json :=
  .record
    [("log_level", .text config.logLevel),
     ("log_format", .text config.logFormat.name),
     ("metrics_enabled", .bool config.metricsEnabled),
     ("metrics_address", .text config.metricsAddress)]

def Config.report (config : Config) : Json :=
  .record
    [("listener", config.listener.report),
     ("http", config.http.report),
     ("websocket", config.websocket.report),
     ("timeouts", .record
      [("request_secs", .natural config.timeouts.requestSeconds),
       ("shutdown_secs", .natural config.timeouts.shutdownSeconds)]),
     ("limits", .record [("max_body_size", .natural config.limits.maxBodySize)]),
     ("observability", config.observability.report)]

def MetricRow.report (row : MetricRow) : Json :=
  .list
    [.text row.name, .record (row.labels.map fun (name, value) => (name, .text value)),
      .integer row.value]

def Metrics.report (metrics : Metrics) : Json :=
  .list ((metrics.rows.map MetricRow.report).mergeSort fun left right =>
    left.toText ≤ right.toText)

def Demo.report (demo : Demo) : Json :=
  .record
    [("get", .natural demo.gets),
     ("post", .natural demo.posts),
     ("put", .natural demo.puts),
     ("delete", .natural demo.deletes),
     ("ws_opened", .natural demo.opened),
     ("ws_frames", .natural demo.frames),
     ("ws_closed", .natural demo.closed),
     ("texts", reportTexts demo.texts)]

end WebHost
