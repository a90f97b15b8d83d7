import MVVMExample.Transition.System
import MVVMExample.Storage.Listing
import MVVMExample.Reactive.Operator
import MVVMExample.Reactive.Merge
import MVVMExample.Memo.Realm
import MVVMExample.Memo.ViewModel
import MVVMExample.Memo.Saving
import MVVMExample.Memo.App
import MVVMExample.Memo.Deleting
import MVVMExample.Memo.Adding
import MVVMExample.Memo.LateSave
import MVVMExample.Storage.Journal
import MVVMExample.Memo.Notebook
import MVVMExample.Memo.Navigation
import MVVMExample.Memo.Table
import MVVMExample.Memo.Screen
import MVVMExample.Memo.ScreenSave
import MVVMExample.Authentication.Dao
import MVVMExample.Authentication.ViewModel
import MVVMExample.Authentication.Screen
import MVVMExample.Authentication.Credentials
import MVVMExample.Authentication.Responses
import MVVMExample.Authentication.Handler
import MVVMExample.Storage.PathTree
import MVVMExample.Main.TestFireBase
import MVVMExample.Main.Screen
import MVVMExample.Transition.Pool
import MVVMExample.Transition.Translation
import MVVMExample.Storage.Ring
import MVVMExample.RxSwift.Queue
import MVVMExample.RxSwift.ShareReplay
import MVVMExample.RxSwift.Bag
import MVVMExample.Reactive.Mailing
import MVVMExample.RxSwift.PublishSubject
import MVVMExample.RxSwift.SingleAssignmentDisposable
import MVVMExample.RxSwift.CurrentThreadScheduler
import MVVMExample.RxSwift.MainScheduler
import MVVMExample.RxSwift.ObserveOn
import MVVMExample.Memo.Screens
import MVVMExample.RxSwift.CompositeDisposable
import MVVMExample.RxSwift.MergeSink
import MVVMExample.RxSwift.MergeSinkSubscriptions
import MVVMExample.Main.Database
import MVVMExample.Reactive.Grammar
import MVVMExample.RxSwift.BehaviorSubject
import MVVMExample.RxSwift.Variable
import MVVMExample.RxSwift.CombineLatest
import MVVMExample.RxSwift.CombineLatestSubscriptions
import MVVMExample.RxSwift.CombineLatestOfTwo
import MVVMExample.KRProgressHUD.Display
