import FireIsp.Billing.GroupPayment
import FireIsp.Billing.Restore
import FireIsp.Billing.Concurrent
import FireIsp.Billing.Waterfall
import FireIsp.Billing.Release
import FireIsp.Radius.Conservation
import FireIsp.Radius.OneOpen
import FireIsp.Cfdi.Failover
import FireIsp.Cfdi.StampInvoice
import FireIsp.Invoicing.Windows
import FireIsp.Cgnat.Attribution
import FireIsp.Cgnat.Continuity
import FireIsp.Ipam.Delegation
import FireIsp.Webhook.Claims
import FireIsp.Numbering.Gapless
import FireIsp.Gateway.Histories
import FireIsp.Lifecycle.Settling
import FireIsp.Trap.Claims
import FireIsp.TrapQuota.Claims
import FireIsp.Inventory.Restored
import FireIsp.Cwmp.Readback
import FireIsp.Acs.Settling
import FireIsp.Acs.Release
import FireIsp.Line.History
import FireIsp.Relay.Replies
import FireIsp.Sso.Containment
import FireIsp.Preference.Refinement
import FireIsp.Cash.Counting
import FireIsp.Auth.OneTime
import FireIsp.Auth.Lockout
import FireIsp.Jobs.Once
import FireIsp.Routeros.Replies
import FireIsp.Routeros.Progress
import FireIsp.Tasks.Runs
import FireIsp.Cwmp.Detect
import FireIsp.Http.Fresh
import FireIsp.Rollover.Once
import FireIsp.Alerts.Complete
import FireIsp.Circuit.Breaker
import FireIsp.Geofence.Polygon
import FireIsp.Secrets.Encryption
import FireIsp.Throughput.Order
import FireIsp.Voip.Convergence
import FireIsp.Pppoe.LogTime
import FireIsp.Invoicing.Connection
import FireIsp.Radius.Named
import FireIsp.Radius.Pap
import FireIsp.Invoicing.Tiling
import FireIsp.Ingress.Admission
import FireIsp.Radius.FramedPrefix
import FireIsp.TrapQuota.Payload
import FireIsp.Cache.Counters
import FireIsp.Cfdi.XmlText
import FireIsp.Suspension.Rules
import FireIsp.Ipam.Overlap
import FireIsp.Billing.Installments
import FireIsp.Tax.RegionRate
import FireIsp.Ipam.SubnetPlan
