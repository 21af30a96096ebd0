import AutoGrocery.Finalization.Completion
import AutoGrocery.Finalization.Workers
import AutoGrocery.Reservation.Serial
import AutoGrocery.Orders.Terminal
import AutoGrocery.Orders.Dispatch
import AutoGrocery.Ordering.Lines
import AutoGrocery.Orders.Calls
import AutoGrocery.Orders.Cancel
import AutoGrocery.Finalization.Billing
import AutoGrocery.Finalization.Restocking
import AutoGrocery.Orders.CancelFaults
import AutoGrocery.Orders.DispatchFaults
import AutoGrocery.Orders.PreviewFaults
import AutoGrocery.Orders.Preview
import AutoGrocery.Reservation.Signs
import AutoGrocery.Catalog.Awaited
import AutoGrocery.Catalog.Convergence
import AutoGrocery.Orders.Books
import AutoGrocery.Orders.Conservation
import AutoGrocery.Orders.Isolation
import AutoGrocery.Orders.ItemList
import AutoGrocery.Catalog.Folding
import AutoGrocery.Finalization.Expiry
import AutoGrocery.Finalization.Leftovers
import AutoGrocery.Finalization.Offloading
import AutoGrocery.Finalization.Stranded
import AutoGrocery.Orders.Analytics
import AutoGrocery.Orders.Cart
import AutoGrocery.Sessions.Handlers
import AutoGrocery.Sessions.Logins
import AutoGrocery.Sessions.Revocation
import AutoGrocery.Catalog.Margins
import AutoGrocery.Catalog.Batches
import AutoGrocery.Finalization.Overflow
import AutoGrocery.Inventory.Sweeps
import AutoGrocery.Orders.Panics
import AutoGrocery.Sessions.Registration
import AutoGrocery.Orders.Records
import AutoGrocery.Orders.Aisles
import AutoGrocery.Catalog.Items
import AutoGrocery.Frontend.Retries
import AutoGrocery.Frontend.Visitors
import AutoGrocery.Frontend.Terminal
