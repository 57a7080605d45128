/-!
# Suites

The four benchmark suites, in the order in which the report shows them.
-/

namespace BenchReport

/-- An independently benchmarked subsystem. -/
inductive Suite where
  /-- The connection-oriented server. -/
  | server
  /-- The in-memory key-value cache. -/
  | cache
  /-- The forwarding proxy. -/
  | proxy
  /-- The protocol-upgrade handshake tester. -/
  | webSocket
  deriving DecidableEq

/-- The accent colour of a headline card. -/
inductive Tone where
  /-- The colour of server figures. -/
  | blue
  /-- The colour of cache figures. -/
  | green
  /-- The colour of proxy figures. -/
  | purple
  /-- The colour of handshake figures. -/
  | orange
  deriving DecidableEq

namespace Suite

/-- All suites in report order. -/
def all : List Suite := [.server, .cache, .proxy, .webSocket]

/-- The name of the suite, with which its result files begin. -/
def key : Suite → String
  | .server => "server"
  | .cache => "cache"
  | .proxy => "proxy"
  | .webSocket => "websocket"

/-- The suite of a name. -/
def ofKey? (key : String) : Option Suite := all.find? fun s => s.key == key

/-- The heading of the suite's section. -/
def title : Suite → String
  | .server => "Server Runtime"
  | .cache => "Cache Runtime"
  | .proxy => "Proxy Runtime"
  | .webSocket => "WebSocket Runtime"

/-- What the suite measures, in one line. -/
def description : Suite → String
  | .server => "TCP server — accept rate, message throughput, concurrent clients"
  | .cache => "RESP-protocol in-memory cache — SET, GET, mixed workloads"
  | .proxy => "TCP & HTTP forwarding — single backend, load balancing, overhead"
  | .webSocket => "WS upgrade handshake rate, TCP coexistence, concurrent clients"

/-- The icon beside the heading. -/
def icon : Suite → String
  | .server => "🖧"
  | .cache => "⚡"
  | .proxy => "↔️"
  | .webSocket => "🌐"

/-- The accent colour of the suite's cards. -/
def tone : Suite → Tone
  | .server => .blue
  | .cache => .green
  | .proxy => .purple
  | .webSocket => .orange

end Suite

namespace Tone

/-- All accent colours. -/
def all : List Tone := [.blue, .green, .purple, .orange]

/-- The name of the colour. -/
def key : Tone → String
  | .blue => "blue"
  | .green => "green"
  | .purple => "purple"
  | .orange => "orange"

/-- The accent colour of a name. -/
def ofKey? (key : String) : Option Tone := all.find? fun t => t.key == key

end Tone

end BenchReport
