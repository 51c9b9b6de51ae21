import HAProxyIngress.Model.Proxy
import HAProxyIngress.Model.Store
import HAProxyIngress.Model.Go
import HAProxyIngress.Model.Sections
import HAProxyIngress.Handler.Https
import HAProxyIngress.Controller.Ingress
import HAProxyIngress.Controller.Global
import HAProxyIngress.Proofs.BindEdits
import HAProxyIngress.Proofs.ClientTLS
import HAProxyIngress.Proofs.DefaultService
import HAProxyIngress.Proofs.Ingress
import HAProxyIngress.Proofs.Rules
import HAProxyIngress.Proofs.Passthrough
import HAProxyIngress.Proofs.Idempotence
import HAProxyIngress.Proofs.Reload
import HAProxyIngress.Proofs.Frame
import HAProxyIngress.Proofs.Sync
import HAProxyIngress.Proofs.Converge
import HAProxyIngress.Proofs.Registry
