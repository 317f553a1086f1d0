/-!
The text that is shown when help is asked for.
-/

namespace SocksTunnel.CommandLine

/-- How the program is called. -/
def usageText : String :=
  "Usage: socks5-forwarder [--version] [--help] serve [OPTIONS]

Forward incoming connections to a fixed target through a SOCKS5 proxy.

Options of serve; each one with a value may also be given in the environment, as
SOCKS5_FORWARDER_LISTEN, _TARGET, _PROXY, _USER, _PASS, _CONNECT_TIMEOUT or _HANDSHAKE_TIMEOUT:

  -l, --listen ADDRESS           listen address, like 127.0.0.1:8000 (the default)
  -t, --target ADDRESS           target address, like 1.1.1.1:443 (required)
      --proxy ADDRESS            proxy address, like 10.0.0.1:1080 (required)
      --user NAME                user name for the proxy, can be left blank
      --pass PASSWORD            password for the proxy, can be left blank
      --connect-timeout N        seconds to wait for the connection to the proxy, 0 for ever
      --handshake-timeout N      seconds to wait for each step of the handshake, 0 for ever
      --debug, --no-debug        show debug records
      --log-file, --no-log-file  accepted; all records go to standard error
      --dashboard, --no-dashboard
                                 show live statistics
      --help                     show this text
"

end SocksTunnel.CommandLine
