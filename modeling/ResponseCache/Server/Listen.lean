import ResponseCache.Net.SocketAddress
import ResponseCache.Cache.Pipeline
/-!
# Listening and connecting

The server binds its listen address: a socket address is bound as it is, and any other text is
looked up as `host:port`. A text without a colon, or whose last colon is followed by no port,
fails before anything is bound or looked up.

Clients reach a listening server over the host's network. A host without a network has no route
to any address, so every connection attempt fails there.
-/

namespace ResponseCache
namespace Server

/-- The error binding a listen address gives before any socket is opened or name looked up, if
the address cannot even be looked up. -/
def bindFailure (listen : String) : Option String :=
  if Net.isSocketAddress listen then none
  else match Net.hostAndPort listen with
    | .error e => some ("failed to bind " ++ listen ++ ": " ++ e.message)
    | .ok _ => none

/-- The network between clients and a listening server. -/
inductive Network where
  /-- No route leads anywhere: the host has no network interface. -/
  | unreachable
deriving DecidableEq, Repr

/-- Sends raw request bytes on a new connection and reads until the server closes it: the raw
response bytes, or the error that ended the attempt. -/
def Network.exchange (n : Network) (_raw : List UInt8) : Except String (List UInt8) :=
  match n with
  | .unreachable => .error "network unreachable"

end Server
end ResponseCache
