import BenchReport.Record
import BenchReport.Suite

/-!
# The figures of the report

The report shows twenty-five figures.  Each is one field of the first record of one
scenario of one suite; the two throughput runs of the server share a scenario and are
told apart by the size of their messages.

## Main definitions

* `Figure`, `Figure.suite`, `Figure.source` — the figures and where each is found.
* `Source.read` — a figure's value in the records of its suite.
* `Figures` — the values of all figures, each of which may be absent.
-/

namespace BenchReport

/-- A figure of the report. -/
inductive Figure where
  /-- Sustained connections per second. -/
  | connectionRate
  /-- Average connect latency in milliseconds. -/
  | connectLatency
  /-- Connections per second in a burst. -/
  | burstRate
  /-- Peak number of connections in a burst. -/
  | burstPeak
  /-- One client's messages per second at 64 bytes. -/
  | smallMessageRate
  /-- One client's megabytes per second at 64 bytes. -/
  | smallBandwidth
  /-- One client's messages per second at a kilobyte. -/
  | largeMessageRate
  /-- One client's megabytes per second at a kilobyte. -/
  | largeBandwidth
  /-- Messages per second of many clients together. -/
  | aggregateRate
  /-- SET operations per second. -/
  | setRate
  /-- GET operations per second. -/
  | getRate
  /-- Operations per second of a mixed load. -/
  | mixedRate
  /-- Operations per second of concurrent cache clients. -/
  | cacheClientsRate
  /-- Milliseconds to write the cache out. -/
  | flushTime
  /-- Milliseconds to read the cache in. -/
  | loadTime
  /-- Requests per second through one backend. -/
  | singleBackendRate
  /-- Requests per second with load balancing. -/
  | balancedRate
  /-- Forwarded messages per second. -/
  | forwardedRate
  /-- Forwarded megabytes per second. -/
  | forwardedBandwidth
  /-- Forwarded messages per second of concurrent clients. -/
  | proxyClientsRate
  /-- Overhead over a direct connection in percent. -/
  | overhead
  /-- Messages per second to a backend addressed by name. -/
  | namedBackendRate
  /-- Handshakes per second. -/
  | handshakeRate
  /-- Operations per second with raw clients beside. -/
  | coexistenceRate
  /-- Operations per second of concurrent handshake clients. -/
  | handshakeClientsRate
  deriving DecidableEq

/-- Where a figure is found among the records of a suite. -/
structure Source where
  /-- The scenario. -/
  scenario : String
  /-- The size of the messages, where runs of several sizes share the scenario. -/
  messageSize : Option Binary64
  /-- The field. -/
  field : String

namespace Source

/-- The field that holds the size of the messages. -/
def messageSizeField : String := "message_size_bytes"

/-- The record that holds the figure, or the empty record. -/
def record (s : Source) (records : List Record) : Record :=
  match s.messageSize with
  | none => Record.find records s.scenario
  | some size => Record.findVariant records s.scenario messageSizeField size

/-- The figure, when it is there and a finite number. -/
def read (s : Source) (records : List Record) : Option Binary64 :=
  (s.record records).figure? s.field

end Source

namespace Figure

/-- The suite that measures a figure. -/
def suite : Figure → Suite
  | connectionRate | connectLatency | burstRate | burstPeak | smallMessageRate
  | smallBandwidth | largeMessageRate | largeBandwidth | aggregateRate => .server
  | setRate | getRate | mixedRate | cacheClientsRate | flushTime | loadTime => .cache
  | singleBackendRate | balancedRate | forwardedRate | forwardedBandwidth
  | proxyClientsRate | overhead | namedBackendRate => .proxy
  | handshakeRate | coexistenceRate | handshakeClientsRate => .webSocket

/-- Where a figure is found. -/
def source : Figure → Source
  | connectionRate => ⟨"server_connection_rate", none, "connections_per_sec"⟩
  | connectLatency => ⟨"server_connection_rate", none, "avg_latency_ms"⟩
  | burstRate => ⟨"server_burst_connections", none, "connections_per_sec"⟩
  | burstPeak => ⟨"server_burst_connections", none, "max_concurrent"⟩
  | smallMessageRate => ⟨"server_single_client_throughput", some 64, "messages_per_sec"⟩
  | smallBandwidth => ⟨"server_single_client_throughput", some 64, "throughput_mb_sec"⟩
  | largeMessageRate => ⟨"server_single_client_throughput", some 1024, "messages_per_sec"⟩
  | largeBandwidth => ⟨"server_single_client_throughput", some 1024, "throughput_mb_sec"⟩
  | aggregateRate => ⟨"server_concurrent_clients", none, "messages_per_sec"⟩
  | setRate => ⟨"cache_set_throughput", none, "ops_per_sec"⟩
  | getRate => ⟨"cache_get_throughput", none, "ops_per_sec"⟩
  | mixedRate => ⟨"cache_mixed_workload", none, "ops_per_sec"⟩
  | cacheClientsRate => ⟨"cache_concurrent_access", none, "ops_per_sec"⟩
  | flushTime => ⟨"cache_persistence", none, "flush_time_ms"⟩
  | loadTime => ⟨"cache_persistence", none, "load_time_ms"⟩
  | singleBackendRate => ⟨"proxy_http_single_backend", none, "requests_per_sec"⟩
  | balancedRate => ⟨"proxy_http_load_balancing", none, "requests_per_sec"⟩
  | forwardedRate => ⟨"proxy_tcp_throughput", none, "messages_per_sec"⟩
  | forwardedBandwidth => ⟨"proxy_tcp_throughput", none, "throughput_mb_sec"⟩
  | proxyClientsRate => ⟨"proxy_concurrent_connections", none, "messages_per_sec"⟩
  | overhead => ⟨"proxy_overhead", none, "overhead_percent"⟩
  | namedBackendRate => ⟨"proxy_runtime_name_backend", none, "messages_per_sec"⟩
  | handshakeRate => ⟨"ws_handshake_throughput", none, "ops_per_sec"⟩
  | coexistenceRate => ⟨"ws_tcp_coexistence", none, "ops_per_sec"⟩
  | handshakeClientsRate => ⟨"ws_concurrent", none, "ops_per_sec"⟩

end Figure

/-- The values of the figures; an absent one was not measured. -/
abbrev Figures := Figure → Option Binary64

end BenchReport
