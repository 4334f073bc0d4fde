import Hydra.Jwk.Key
import Hydra.Jwk.Manager
import Hydra.Json.Decode
import Hydra.Prog
import Hydra.Jwk.Handler
import Hydra.Jwk.Routes
import Hydra.Linearizable
import Hydra.Jwk.Concurrent
import Hydra.Server.HelperKeys
import Hydra.Server.Provisioning
import Hydra.OAuth2.ErrorPage
import Hydra.Cli.Migrate
import Hydra.Config.Plugin
import Hydra.Sdk.CodeGenSDK
