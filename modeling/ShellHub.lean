import ShellHub.Auth.PublicKey
import ShellHub.Session.Wire
import ShellHub.Session.Marshal
import ShellHub.Channels.Loop
import ShellHub.Channels.Program
import ShellHub.Channels.Relay
import ShellHub.Channels.Terminal
import ShellHub.Channels.Teardown
import ShellHub.Workers.Strconv
import ShellHub.Workers.Heartbeat
import ShellHub.Workers.Pipeline
import ShellHub.DockerConnector.Connection
import ShellHub.DockerConnector.Server
import ShellHub.DockerConnector.Safety
import ShellHub.Api.User
import ShellHub.Api.Namespace
import ShellHub.Api.Namespaces
import ShellHub.Ui.Auth
