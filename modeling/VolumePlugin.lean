import VolumePlugin.Main
import VolumePlugin.Mounts.Kernel
import VolumePlugin.Proofs.Accounting
import VolumePlugin.Proofs.Cloud.Lookup
import VolumePlugin.Proofs.Cloud.Record
import VolumePlugin.Proofs.Controller.Detachment
import VolumePlugin.Proofs.Controller.Duplicates
import VolumePlugin.Proofs.Controller.Grants
import VolumePlugin.Proofs.Controller.Pages
import VolumePlugin.Proofs.Controller.Refusals
import VolumePlugin.Proofs.Controller.Retry
import VolumePlugin.Proofs.Controller.Tokens
import VolumePlugin.Proofs.Controller.Withdrawal
import VolumePlugin.Proofs.Device
import VolumePlugin.Proofs.Forwarding
import VolumePlugin.Proofs.Mounts.Formatting
import VolumePlugin.Proofs.Mounts.Table
import VolumePlugin.Proofs.Node.BlockDevices
import VolumePlugin.Proofs.Node.Devices
import VolumePlugin.Proofs.Node.Inspection
import VolumePlugin.Proofs.Node.Options
import VolumePlugin.Proofs.Node.Retries
import VolumePlugin.Proofs.Node.Secrecy
import VolumePlugin.Proofs.Node.Serial
import VolumePlugin.Proofs.Poller.Shutdown
import VolumePlugin.Proofs.Rendezvous
import VolumePlugin.Testbed.Daemon
