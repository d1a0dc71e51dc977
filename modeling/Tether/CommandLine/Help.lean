import Tether.CommandLine.Arguments
import Tether.Failure

/-! # What the command prints before it runs

The help text, the version, and the report of a refused command line.
-/

namespace Tether.CommandLine

def helpText : String :=
"usage: cpu [options] host [shell command]

Run a command on a remote host with the local namespace exported to it

positional arguments:
  host                  remote host
  command               command to run remotely

options:
  -h, --help            show this help message and exit
  -bin BIN              path of cpu binary (default: cpud)
  -d                    enable debug prints
  -dump                 Dump copious output, including a 9p trace, to a temp
                        file at exit
  -dbg9p                show 9p io
  -hk HK                file for host key
  -insecure             DANGEROUS: accept any host key when -hk is not given
  -key KEY              key file (default: $HOME/.ssh/cpu_rsa)
  -mountopts MOUNTOPTS  Extra options to add to the 9p mount
  -msize MSIZE          msize to use (default: 1048576)
  -network \x7btcp,tcp4,tcp6\x7d
                        network to use (default: tcp)
  -sp SP                cpu default port (default: 23)
  -port9p PORT9P        port9p # on remote machine for 9p mount (default: any
                        free port)
  -root ROOT            9p root (default: /)
  -timeout9p TIMEOUT9P  time to wait for the 9p mount to happen (default:
                        100ms)
  -version              show program's version number and exit

Environment:
    HOME            Base of the default identity key ($HOME/.ssh/cpu_rsa)
    USER            Remote user name
    SHELL           Command to run when none is given
    CPU_NAMESPACE   Set to an empty value to skip the namespace export
    CPU_FILESHARE   File-share server entry point to use (default: 9p)
"

def versionText : String := "cpu 0.1.0\n"

namespace Exit

def status : Exit → Int
  | .help | .version => 0
  | .usage _ => exitFailure

def output : Exit → String
  | .help => helpText
  | .version => versionText
  | .usage _ => ""

/-- What is written to standard error: the help and one line on the fault. -/
def report : Exit → String
  | .usage e => helpText ++ s!"cpu: error: {e.text}\n"
  | _ => ""

end Exit

end Tether.CommandLine
