import K8sTew.Servers.Properties
import K8sTew.Servers.Liveness
import K8sTew.Servers.Outcome
import K8sTew.Servers.Shutdown
import K8sTew.Servers.Interleaving
import K8sTew.Deployment.Properties
import K8sTew.Deployment.SharedConfig
import K8sTew.Deployment.Errors
import K8sTew.Deployment.Bounds
import K8sTew.RetryBudget
