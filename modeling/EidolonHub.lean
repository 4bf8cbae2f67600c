import EidolonHub.Admission.ClaimEventPages
import EidolonHub.Admission.Issuance
import EidolonHub.Admission.Lineage
import EidolonHub.Admission.Listings
import EidolonHub.Admission.Possession
import EidolonHub.Admission.Presence
import EidolonHub.Channels.Operations
import EidolonHub.Channels.Revocations
import EidolonHub.Channels.SharedSelection
import EidolonHub.Database.FirstInstall
import EidolonHub.Devices.EraseCoverage
import EidolonHub.Devices.EraseDelivery
import EidolonHub.Devices.EraseEvidence
import EidolonHub.Devices.Isolation
import EidolonHub.Devices.Reading
import EidolonHub.Discovery.Transports
import EidolonHub.Integration.Store
import EidolonHub.Integration.Vault
import EidolonHub.SmartHome.AccountIsolation
import EidolonHub.SmartHome.Attribution
import EidolonHub.SmartHome.Confirmable
import EidolonHub.SmartHome.Healing
import EidolonHub.SmartHome.ImportRepeat
import EidolonHub.SmartHome.Observer
import EidolonHub.SmartHome.Panel
import EidolonHub.SmartHome.Reconciliation
