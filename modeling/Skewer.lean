import Skewer.Go.Bytes
import Skewer.Go.Strconv
import Skewer.Go.HashMap
import Skewer.Go.Channel
import Skewer.Runs
import Skewer.Relp.Wire
import Skewer.Relp.Scanner
import Skewer.Relp.Framing
import Skewer.Relp.Handler
import Skewer.Relp.AckForwarder
import Skewer.Relp.Commit
import Skewer.Relp.Cooker
import Skewer.Relp.Connection
import Skewer.Relp.ResponseOrder
import Skewer.Relp.Pipeline
import Skewer.Relp.Service
import Skewer.Relp.Status
import Skewer.Relp.Supervisor
import Skewer.Relp.Pool
import Skewer.Tcp.Split
import Skewer.Tcp.Framing
import Skewer.Services.Parsing
import Skewer.Tcp.Connection
import Skewer.Udp.Connection
import Skewer.Binder.Server
import Skewer.Binder.Resources
import Skewer.Binder.Reset
import Skewer.Plugin.Controller
import Skewer.Plugin.Listen
import Skewer.Store.Plugin
